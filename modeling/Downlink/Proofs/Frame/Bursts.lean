import Mathlib
import Downlink.Proofs.Frame.Interleaving
import Downlink.Proofs.Frame.Receiver

/-!
# Bursts

Bytes that are sent one behind the other belong to the sub-frames in turn, the parity bytes too: the
grid ends with the last sub-frame and the parity starts with the first. Only the skipped slot lets a
turn drop out. So a burst of errors hits every codeword about equally often.
-/

namespace Downlink

namespace Layout

/-- The sub-frame of each byte of a frame in the order of sending. -/
def owners (l : Layout) : List Nat :=
  l.slots.map Slot.subFrame ++ (List.range l.parityLength).map (· % l.subFrames)

end Layout

/-! ### Turns -/

theorem turns_eq_flatMap (n rounds : Nat) :
    (List.range (rounds * n)).map (· % n) = (List.range rounds).flatMap fun _ => List.range n := by
  induction rounds with
  | zero => simp
  | succ rounds ih =>
    have hround : (List.range n).map ((· % n) ∘ (rounds * n + ·)) = List.range n := by
      refine (List.map_congr_left fun x hx => ?_).trans (List.map_id _)
      have hlt : x < n := List.mem_range.mp hx
      rw [Function.comp_apply, Nat.mul_add_mod_self_right, Nat.mod_eq_of_lt hlt, id]
    rw [Nat.succ_mul, List.range_add, List.map_append, ih, List.map_map, hround, List.range_succ,
      List.flatMap_append, List.flatMap_singleton]

/-- In a round of turns everyone has one. -/
theorem nodup_turns (n start count : Nat) (h : count ≤ n) :
    ((List.range' start count).map (· % n)).Nodup := by
  refine List.Nodup.map_on ?_ List.nodup_range'
  intro x hx y hy heq
  have hx := List.mem_range'_1.mp hx
  have hy := List.mem_range'_1.mp hy
  have hmod : x ≡ y [MOD n] := heq
  exact hmod.eq_of_abs_lt (abs_lt.mpr ⟨by omega, by omega⟩)

theorem count_turns_le (n : Nat) (hn : 0 < n) (start count s : Nat) :
    ((List.range' start count).map (· % n)).count s ≤ count ⌈/⌉ n := by
  -- One round after the other; the last one may be short.
  induction count using Nat.strong_induction_on generalizing start with
  | h count ih =>
    by_cases hround : count ≤ n
    · have hone : ((List.range' start count).map (· % n)).count s ≤ 1 :=
        List.nodup_iff_count_le_one.mp (nodup_turns n start count hround) s
      cases count with
      | zero => simp
      | succ count =>
        have hceil : 1 ≤ (count + 1) ⌈/⌉ n := by
          rw [Nat.ceilDiv_eq_add_pred_div, Nat.le_div_iff_mul_le hn]
          omega
        exact hone.trans hceil
    · obtain ⟨rest, rfl⟩ := Nat.exists_eq_add_of_le (Nat.le_of_not_le hround)
      have hone : ((List.range' start n).map (· % n)).count s ≤ 1 :=
        List.nodup_iff_count_le_one.mp (nodup_turns n start n le_rfl) s
      have hrest := ih rest (by omega) (start + n)
      have hceil : (n + rest) ⌈/⌉ n = 1 + rest ⌈/⌉ n := by
        rw [Nat.ceilDiv_eq_add_pred_div, Nat.ceilDiv_eq_add_pred_div, Nat.add_assoc,
          Nat.add_sub_assoc (by omega), Nat.add_div_left _ hn]
        omega
      have hsplit : List.range' start (n + rest) =
          List.range' start n ++ List.range' (start + n) rest := by
        rw [← List.range'_append, Nat.one_mul]
      rw [hsplit, List.map_append, List.count_append, hceil]
      omega

/-- A window of a list that others were taken out of lies in a window as much longer. -/
theorem window_of_sublist {α : Type} {xs ys : List α} (h : ys.Sublist xs) (start length : Nat) :
    ∃ front window back, xs = front ++ (window ++ back) ∧
      ((ys.drop start).take length).Sublist window ∧
      window.length ≤ length + (xs.length - ys.length) := by
  have hsplit : ys.take start ++ ((ys.drop start).take length ++ (ys.drop start).drop length) =
      ys := by
    rw [List.take_append_drop, List.take_append_drop]
  rw [← hsplit] at h
  obtain ⟨front, rest, rfl, hfront, hrest⟩ := List.append_sublist_iff.mp h
  obtain ⟨window, back, rfl, hwindow, hback⟩ := List.append_sublist_iff.mp hrest
  refine ⟨front, window, back, rfl, hwindow, ?_⟩
  have hlen := congrArg List.length hsplit
  have hfront := hfront.length_le
  have hback := hback.length_le
  have htake : ((ys.drop start).take length).length ≤ length := List.length_take_le _ _
  simp only [List.length_append] at hlen ⊢
  omega

/-- Where turns drop out, a window holds as many more of them as are missing. -/
theorem count_window_le (n : Nat) (hn : 0 < n) (total : Nat) (ys : List Nat)
    (h : ys.Sublist ((List.range total).map (· % n))) (start length s : Nat) :
    ((ys.drop start).take length).count s ≤ (length + (total - ys.length)) ⌈/⌉ n := by
  obtain ⟨front, window, back, hturns, hwindow, hlen⟩ := window_of_sublist h start length
  obtain ⟨a, rest, hrange, -, hrest⟩ := List.map_eq_append_iff.mp hturns
  obtain ⟨b, c, rfl, hb, -⟩ := List.map_eq_append_iff.mp hrest
  rw [List.range_eq_range'] at hrange
  obtain ⟨i, -, -, hbehind⟩ := List.range'_eq_append_iff.mp hrange
  obtain ⟨j, -, hturn, -⟩ := List.range'_eq_append_iff.mp hbehind.symm
  have hcount : window.count s ≤ window.length ⌈/⌉ n := by
    have hsize : window.length = j := by
      rw [← hb, hturn, List.length_map, List.length_range']
    rw [hsize, ← hb, hturn]
    exact count_turns_le n hn _ j s
  rw [List.length_map, List.length_range] at hlen
  calc ((ys.drop start).take length).count s
      ≤ window.count s := hwindow.count_le s
    _ ≤ window.length ⌈/⌉ n := hcount
    _ ≤ (length + (total - ys.length)) ⌈/⌉ n := by
        rw [Nat.ceilDiv_eq_add_pred_div, Nat.ceilDiv_eq_add_pred_div]
        exact Nat.div_le_div_right (by omega)

/-! ### Bytes of a sub-frame -/

/-- The bytes whose owner is `s`. -/
def owned (owners : List Nat) (bytes : List UInt8) (s : Nat) : List UInt8 :=
  ((owners.zip bytes).filter fun p => p.1 == s).map Prod.snd

theorem owned_append (owners more : List Nat) (bytes rest : List UInt8) (s : Nat)
    (h : owners.length = bytes.length) :
    owned (owners ++ more) (bytes ++ rest) s = owned owners bytes s ++ owned more rest s := by
  rw [owned, List.zip_append h, List.filter_append, List.map_append]
  rfl

theorem owned_map_subFrame (slots : List Slot) (bytes : List UInt8) (s : Nat) :
    owned (slots.map Slot.subFrame) bytes s = bytesOf slots bytes s := by
  rw [owned, bytesOf, List.zip_map_left, List.filter_map, List.map_map]
  rfl

theorem owned_of_notMem (owners : List Nat) (bytes : List UInt8) (s : Nat) (h : s ∉ owners) :
    owned owners bytes s = [] := by
  rw [owned, List.map_eq_nil_iff, List.filter_eq_nil_iff]
  rintro ⟨owner, byte⟩ hmem heq
  exact h (beq_iff_eq.mp heq ▸ (List.of_mem_zip hmem).1)

theorem owned_range (bytes : List UInt8) (s : Nat) (byte : UInt8) (h : bytes[s]? = some byte) :
    owned (List.range bytes.length) bytes s = [byte] := by
  induction bytes using List.reverseRecOn with
  | nil => exact absurd h (by simp)
  | append_singleton rest last ih =>
    rw [List.length_append, List.length_singleton, List.range_succ,
      owned_append _ _ _ _ s List.length_range]
    by_cases hfront : s < rest.length
    · rw [List.getElem?_append_left hfront] at h
      have hlast : s ∉ [rest.length] := by
        rw [List.mem_singleton]
        omega
      rw [ih h, owned_of_notMem _ _ _ hlast, List.append_nil]
    · obtain ⟨hs, -⟩ := List.getElem?_eq_some_iff.mp h
      obtain rfl : s = rest.length := by
        rw [List.length_append, List.length_singleton] at hs
        omega
      obtain rfl : last = byte := by simpa using h
      have hrest : rest.length ∉ List.range rest.length := List.not_mem_range_self
      rw [owned_of_notMem _ _ _ hrest]
      simp [owned]

theorem owned_groups (indices : List Nat) (parity : List Parity) (s : Nat) (p : Parity)
    (hp : parity[s]? = some p) :
    owned (indices.flatMap fun _ => List.range parity.length)
        (indices.flatMap fun i => parity.map fun p => p.getD i 0) s =
      indices.map fun i => p.getD i 0 := by
  induction indices with
  | nil => rfl
  | cons i indices ih =>
    have hgroup : owned (List.range parity.length) (parity.map fun p => p.getD i 0) s =
        [p.getD i 0] := by
      have hbyte : (parity.map fun p => p.getD i 0)[s]? = some (p.getD i 0) := by
        rw [List.getElem?_map, hp, Option.map_some]
      have hrange := owned_range _ s _ hbyte
      rwa [List.length_map] at hrange
    rw [List.flatMap_cons, List.flatMap_cons, owned_append _ _ _ _ s (by simp), hgroup, ih]
    rfl

namespace Layout

theorem length_owners (l : Layout) : l.owners.length = l.slots.length + l.parityLength := by
  rw [owners, List.length_append, List.length_map, List.length_map, List.length_range]

/-- What a sub-frame owns of a frame on air is its codeword. -/
theorem owned_bytes (l : Layout) (header payload : List UInt8) (frame : InterleavedFrame)
    (hcarries : frame.Carries l header payload) (s : Nat) (p : Parity)
    (hp : frame.parity[s]? = some p) :
    owned l.owners frame.bytes s = bytesOf l.slots frame.written s ++ p.toList := by
  have hlen : (l.slots.map Slot.subFrame).length = frame.written.length := by
    rw [List.length_map, hcarries.length_slots]
  have hturns : (List.range l.parityLength).map (· % l.subFrames) =
      (List.range parityBytes).flatMap fun _ => List.range frame.parity.length := by
    rw [parityLength, Nat.mul_comm, turns_eq_flatMap, hcarries.length_parity]
  rw [owners, InterleavedFrame.bytes, owned_append _ _ _ _ s hlen, owned_map_subFrame, hturns,
    InterleavedFrame.parityInterleaved, owned_groups _ _ s p hp, map_getD_range]

/-! ### Windows -/

theorem grid_map_subFrame (l : Layout) :
    l.grid.map Slot.subFrame = (List.range (l.columns * l.subFrames)).map (· % l.subFrames) := by
  have hcolumn : ∀ column : Nat,
      ((List.range l.subFrames).map (Slot.mk column)).map Slot.subFrame =
        List.range l.subFrames := by
    intro column
    rw [List.map_map]
    exact List.map_id _
  rw [turns_eq_flatMap, grid, List.map_flatMap]
  simp only [hcolumn]

theorem owners_sublist_turns (l : Layout) :
    l.owners.Sublist
      ((List.range (l.columns * l.subFrames + l.parityLength)).map (· % l.subFrames)) := by
  have hslots : (l.slots.map Slot.subFrame).Sublist (l.grid.map Slot.subFrame) := by
    rw [slots_eq_filter]
    exact List.filter_sublist.map _
  have hparity : (List.range l.parityLength).map
      ((· % l.subFrames) ∘ (l.columns * l.subFrames + ·)) =
        (List.range l.parityLength).map (· % l.subFrames) := by
    refine List.map_congr_left fun x _ => ?_
    rw [Function.comp_apply, Nat.mul_add_mod_self_right]
  rw [owners, List.range_add, List.map_append, List.map_map, hparity, ← grid_map_subFrame]
  exact hslots.append (List.Sublist.refl _)

/-- At most the turn of the skipped slot is missing. -/
theorem turns_sub_length_owners (l : Layout) (h : l.Consistent) :
    l.columns * l.subFrames + l.parityLength - l.owners.length =
      if l.skipped.isSome then 1 else 0 := by
  have hpos : 0 < l.columns * l.subFrames := Nat.mul_pos h.columns_pos h.subFrames_pos
  have hslots : l.slots.length = l.columns * l.subFrames - if l.skipped.isSome then 1 else 0 := by
    rw [l.length_slots h, ← h.slotCount_eq, slotCount, Nat.mul_comm]
  rw [length_owners, hslots]
  split <;> omega

/-- On air, the bytes of each sub-frame are its information and then its parity, and among any
bytes in a row it has at most its even share, rounded up; where a slot is skipped, that of one byte
more. -/
theorem bursts_are_shared (l : Layout) (hvalid : l.validate = .ok ()) :
    (∀ header payload frame, l.interleave header payload = .ok frame →
      l.owners.length = frame.bytes.length ∧
      ∀ (s : Nat) (p : Parity), frame.parity[s]? = some p →
        owned l.owners frame.bytes s = bytesOf l.slots frame.written s ++ p.toList) ∧
    ∀ start length s, ((l.owners.drop start).take length).count s ≤
      (length + if l.skipped.isSome then 1 else 0) ⌈/⌉ l.subFrames := by
  have hcons := l.validate_eq_ok_iff.mp hvalid
  constructor
  · intro header payload frame hok
    obtain ⟨-, hheader, hpayload⟩ := (l.interleave_ok_iff header payload).mp ⟨frame, hok⟩
    have hcarries := l.carries_of_interleave header payload frame hcons hheader hpayload hok
    refine ⟨?_, l.owned_bytes header payload frame hcarries⟩
    rw [length_owners, frame.length_bytes, hcarries.length_slots, hcarries.length_parity,
      parityLength, Nat.mul_comm]
  · intro start length s
    have hcount := count_window_le l.subFrames hcons.subFrames_pos _ l.owners
      l.owners_sublist_turns start length s
    rwa [l.turns_sub_length_owners hcons] at hcount

theorem bursts_are_shared_skipped_slot :
    bpsk.validate = .ok () ∧ (bpsk.owners.drop 474).take 3 = [0, 1, 0] ∧
      ((bpsk.owners.drop 474).take 3).count 0 ≤ 2 ∧
      ((bpsk.owners.drop 460).take 48).count 2 ≤ 17 := by
  obtain ⟨-, hshared⟩ := bursts_are_shared bpsk validate_bpsk
  have hburst := hshared 460 48 2
  exact ⟨validate_bpsk, by decide +kernel, hshared 474 3 0, hburst⟩

end Layout

end Downlink
