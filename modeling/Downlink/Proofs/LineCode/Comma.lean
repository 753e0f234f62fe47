import Mathlib
import Downlink.Modulator
import Downlink.Proofs.LineCode.SubBlocks

/-!
# Commas

A receiver finds the first bit of a frame by the comma, seven bits that no data symbols contain, not
even across the seam of two. The frequency-shift sync word starts with one and is sent as it stands,
whatever the disparity, so its seams with the symbols around it have to be looked at too. A pattern
of at most seven bits that starts in a sub-block ends in the next but one, so a finite check of
neighbours decides, and it carries over to streams of any length.
-/

namespace Downlink

/-- A pattern starts at a position of a bit stream. -/
def StartsAt (pattern bits : List Bool) (i : Nat) : Prop := pattern <+: bits.drop i

theorem StartsAt.append {pattern bits : List Bool} {i : Nat} (h : StartsAt pattern bits i)
    (hi : i ≤ bits.length) (more : List Bool) : StartsAt pattern (bits ++ more) i := by
  rw [StartsAt, List.drop_append_of_le_length hi]
  exact h.trans (List.prefix_append _ _)

theorem startsAt_append_right (pattern xs ys : List Bool) (i : Nat) :
    StartsAt pattern (xs ++ ys) (xs.length + i) ↔ StartsAt pattern ys i := by
  rw [StartsAt, StartsAt, List.drop_length_add_append]

namespace LineCode

/-- The seven bits that lead a frame. -/
def comma : List Bool := [false, false, true, true, true, true, true]

/-- The bits of a comma, each the other way round. -/
def inverseComma : List Bool := [true, true, false, false, false, false, false]

/-- What symbols may not hold: a comma of either kind and six equal bits. -/
def forbidden : List (List Bool) :=
  [comma, inverseComma, List.replicate 6 false, List.replicate 6 true]

/-- A pattern and a bit stream agree as far as both go. -/
def agrees : List Bool → List Bool → Bool
  | p :: pattern, b :: bits => p == b && agrees pattern bits
  | _, _ => true

/-- No forbidden pattern can start among the first `n` bits, whatever comes behind the stream. -/
def quiet : Nat → List Bool → Bool
  | 0, _ => true
  | n + 1, bits => forbidden.all (fun pattern => !agrees pattern bits) && quiet n bits.tail

theorem lt_length_of_startsAt {pattern bits : List Bool} {i : Nat} (h : StartsAt pattern bits i)
    (hp : pattern ∈ forbidden) : i < bits.length := by
  have hnonempty : ∀ pattern ∈ forbidden, pattern ≠ [] := by decide
  by_contra hend
  rw [StartsAt, List.drop_of_length_le (Nat.le_of_not_lt hend)] at h
  exact hnonempty pattern hp (List.prefix_nil.mp h)

theorem agrees_of_prefix {pattern bits : List Bool} (h : pattern <+: bits) :
    agrees pattern bits = true := by
  induction pattern generalizing bits with
  | nil => rfl
  | cons p pattern ih =>
    cases bits with
    | nil => rfl
    | cons b bits =>
      obtain ⟨rfl, hrest⟩ := List.cons_prefix_cons.mp h
      rw [agrees, beq_self_eq_true, Bool.true_and]
      exact ih hrest

theorem agrees_of_append {pattern bits : List Bool} (more : List Bool)
    (h : agrees pattern (bits ++ more) = true) : agrees pattern bits = true := by
  induction pattern generalizing bits with
  | nil => rfl
  | cons p pattern ih =>
    cases bits with
    | nil => rfl
    | cons b bits =>
      rw [List.cons_append, agrees, Bool.and_eq_true] at h
      rw [agrees, h.1, Bool.true_and]
      exact ih h.2

theorem quiet_succ (n : Nat) (bits : List Bool) :
    quiet (n + 1) bits = true ↔
      (∀ pattern ∈ forbidden, agrees pattern bits = false) ∧ quiet n bits.tail = true := by
  rw [quiet, Bool.and_eq_true, List.all_eq_true]
  simp only [Bool.not_eq_true']

theorem quiet_append {n : Nat} {bits : List Bool} (h : quiet n bits = true) (hn : n ≤ bits.length)
    (more : List Bool) : quiet n (bits ++ more) = true := by
  induction n generalizing bits with
  | zero => rfl
  | succ n ih =>
    cases bits with
    | nil => simp at hn
    | cons b bits =>
      rw [quiet_succ] at h ⊢
      obtain ⟨hhere, hrest⟩ := h
      -- A pattern that agrees with the longer stream agrees with its front.
      refine ⟨fun pattern hp => ?_, ih hrest (by simpa using hn)⟩
      by_contra hagrees
      have hfront := agrees_of_append more (Bool.eq_true_of_not_eq_false hagrees)
      rw [hhere pattern hp] at hfront
      exact absurd hfront (by decide)

theorem quiet_add {n : Nat} {xs ys : List Bool} (hx : quiet xs.length (xs ++ ys) = true)
    (hy : quiet n ys = true) : quiet (xs.length + n) (xs ++ ys) = true := by
  induction xs with
  | nil =>
    rw [List.length_nil, Nat.zero_add]
    exact hy
  | cons x xs ih =>
    rw [List.length_cons, quiet_succ] at hx
    rw [List.length_cons, Nat.add_right_comm, quiet_succ]
    exact ⟨hx.1, ih hx.2⟩

theorem not_startsAt_of_quiet {n : Nat} {bits : List Bool} (h : quiet n bits = true) {i : Nat}
    (hi : i < n) {pattern : List Bool} (hp : pattern ∈ forbidden) : ¬StartsAt pattern bits i := by
  induction n generalizing bits i with
  | zero => omega
  | succ n ih =>
    obtain ⟨hhere, hrest⟩ := (quiet_succ n bits).mp h
    intro hstart
    cases i with
    | zero =>
      have hagrees := agrees_of_prefix hstart
      rw [List.drop_zero, hhere pattern hp] at hagrees
      exact absurd hagrees (by decide)
    | succ i =>
      rw [StartsAt, ← List.drop_tail] at hstart
      exact ih hrest (by omega) hstart

/-! ### Neighbours -/

/-- The six bits that may stand behind a symbol: a sync word leads with a comma, a symbol with the
sub-block for the disparity. -/
def heads (rd : Disparity) : List (List Bool) :=
  comma.take 6 :: (List.range 32).map fun low => blockBits (sixAt rd low)

/-- The bits behind a symbol. -/
def Follows (rd : Disparity) (bits : List Bool) : Prop := bits.take 6 ∈ heads rd

/-- The bits behind a symbol where a flag may come too. -/
def FollowsInLine (rd : Disparity) (bits : List Bool) : Prop :=
  bits.take 6 ∈ (Symbol.bits (rd.select flagForms)).take 6 :: heads rd

theorem Follows.inLine {rd : Disparity} {bits : List Bool} (h : Follows rd bits) :
    FollowsInLine rd bits :=
  List.mem_cons_of_mem _ h

theorem quiet_sixAt (rd : Disparity) (low high : Nat) (hlow : low < 32) (hhigh : high < 8)
    (rest : List Bool) :
    quiet 6 (blockBits (sixAt rd low) ++
      (blockBits (fourAt (rd.after (sixAt rd low)) low high) ++ rest)) = true := by
  have hall : ∀ rd ∈ [Disparity.negative, Disparity.positive], ∀ low < 32, ∀ high < 8,
      quiet 6 (blockBits (sixAt rd low) ++
        blockBits (fourAt (rd.after (sixAt rd low)) low high)) = true := by
    decide +kernel
  have hpair := hall rd (by cases rd <;> decide) low hlow high hhigh
  rw [← List.append_assoc]
  exact quiet_append hpair (by simp [length_blockBits]) rest

theorem quiet_fourAt (rd : Disparity) (low high : Nat) (hhigh : high < 8) (rest : List Bool)
    (h : FollowsInLine (rd.after (fourAt rd low high)) rest) :
    quiet 4 (blockBits (fourAt rd low high) ++ rest) = true := by
  have hall : ∀ rd ∈ [Disparity.negative, Disparity.positive],
      ∀ four ∈ rd.select alternateFour ::
        (List.range 8).map fun high => rd.select (fourTable.getD high alternateFour),
      ∀ head ∈ (Symbol.bits ((rd.after four).select flagForms)).take 6 :: heads (rd.after four),
        quiet 4 (blockBits four ++ head) = true := by
    decide +kernel
  have hmem : fourAt rd low high ∈ rd.select alternateFour ::
      (List.range 8).map fun high => rd.select (fourTable.getD high alternateFour) := by
    rw [fourAt]
    rcases fourForms_cases rd low high with hform | hform
    · rw [hform]
      exact List.mem_cons_self
    · rw [hform]
      exact List.mem_cons_of_mem _ (List.mem_map.mpr ⟨high, List.mem_range.mpr hhigh, rfl⟩)
  have hseam := hall rd (by cases rd <;> decide) _ hmem _ h
  have hquiet := quiet_append hseam (by simp [length_blockBits]) (rest.drop 6)
  rwa [List.append_assoc, List.take_append_drop] at hquiet

theorem follows_encodeByte (rd : Disparity) (byte : UInt8) (rest : List Bool) :
    Follows rd (Symbol.bits (encodeByte rd byte).1 ++ rest) := by
  rw [Follows, bits_encodeByte, List.append_assoc, List.take_left' (length_blockBits _)]
  refine List.mem_cons_of_mem _ (List.mem_map.mpr ⟨byte.toNat % 32, ?_, rfl⟩)
  exact List.mem_range.mpr (Nat.mod_lt _ (by decide))

theorem quiet_encodeByte (rd : Disparity) (byte : UInt8) (rest : List Bool)
    (h : FollowsInLine (encodeByte rd byte).2 rest) :
    quiet 10 (Symbol.bits (encodeByte rd byte).1 ++ rest) = true := by
  have hsix := quiet_sixAt rd (byte.toNat % 32) (byte.toNat / 32) (Nat.mod_lt _ (by decide))
    (high_lt byte) rest
  have hfour := quiet_fourAt (rd.after (sixAt rd (byte.toNat % 32))) (byte.toNat % 32)
    (byte.toNat / 32) (high_lt byte) rest h
  have hquiet := quiet_add (by rwa [length_blockBits]) hfour
  rw [length_blockBits] at hquiet
  rw [bits_encodeByte, List.append_assoc]
  exact hquiet

/-! ### Frames -/

/-- The symbols of data bytes are quiet if what stands behind them is a sync word. -/
theorem quiet_encodeAll (rd : Disparity) (bytes : List UInt8) (rest : List Bool)
    (h : ∀ rd, Follows rd rest) :
    let bits := (encodeAll rd (bytes.map .data)).1.flatMap Symbol.bits
    Follows rd (bits ++ rest) ∧ quiet bits.length (bits ++ rest) = true := by
  -- Each symbol is quiet because of what follows it, so both facts go through the list together.
  induction bytes generalizing rd with
  | nil => exact ⟨h rd, rfl⟩
  | cons byte bytes ih =>
    obtain ⟨hfollows, hquiet⟩ := ih (encodeByte rd byte).2
    have hsymbol := quiet_encodeByte rd byte _ hfollows.inLine
    simp only [List.map_cons, encodeAll_cons, List.flatMap_cons, List.append_assoc,
      List.length_append]
    refine ⟨follows_encodeByte rd byte _, quiet_add ?_ hquiet⟩
    rw [Symbol.length_bits]
    exact hsymbol

/-- The symbols of data bytes, at whatever disparity they started. -/
def CarriesData (symbols : List Symbol) : Prop :=
  ∃ (rd : Disparity) (bytes : List UInt8), symbols = (encodeAll rd (bytes.map .data)).1

theorem follows_sync (rd : Disparity) (rest : List Bool) :
    Follows rd (SyncWord.fsk.bits ++ rest) := by
  have hcomma : SyncWord.fsk.bits.take 6 = comma.take 6 := by decide
  rw [Follows, List.take_append_of_le_length (by decide), hcomma]
  exact List.mem_cons_self

/-- Behind the first bit of ten that are quiet with what follows them, no pattern starts. -/
theorem starts_at_first {word rest : List Bool} (hlen : word.length = 10)
    (hquiet : quiet 9 (word.tail ++ rest.take 6) = true) {i : Nat} (hi : i < 10)
    {pattern : List Bool} (hp : pattern ∈ forbidden) (hstart : StartsAt pattern (word ++ rest) i) :
    agrees pattern word = true ∧ i = 0 := by
  cases i with
  | zero =>
    have hagrees := agrees_of_prefix hstart
    rw [List.drop_zero] at hagrees
    exact ⟨agrees_of_append rest hagrees, rfl⟩
  | succ i =>
    have hcons : word ≠ [] := List.ne_nil_of_length_eq_add_one hlen
    have hbehind : 9 ≤ (word.tail ++ rest.take 6).length := by
      rw [List.length_append, List.length_tail, hlen]
      exact Nat.le_add_right 9 _
    have hall := quiet_append hquiet hbehind (rest.drop 6)
    rw [List.append_assoc, List.take_append_drop] at hall
    rw [StartsAt, ← List.drop_tail, List.tail_append_of_ne_nil hcons] at hstart
    exact absurd hstart (not_startsAt_of_quiet hall (by omega) hp)

/-- In a sync word only a comma can start, and only at its first bit. -/
theorem sync_starts (rd : Disparity) (rest : List Bool) (h : Follows rd rest) (i : Nat)
    (hi : i < 10) (pattern : List Bool) (hp : pattern ∈ forbidden)
    (hstart : StartsAt pattern (SyncWord.fsk.bits ++ rest) i) : pattern = comma ∧ i = 0 := by
  have hlead : ∀ pattern ∈ forbidden,
      agrees pattern SyncWord.fsk.bits = true → pattern = comma := by
    decide
  have hall : ∀ rd ∈ [Disparity.negative, Disparity.positive], ∀ head ∈ heads rd,
      quiet 9 (SyncWord.fsk.bits.tail ++ head) = true := by
    decide +kernel
  have hquiet := hall rd (by cases rd <;> decide) _ h
  obtain ⟨hagrees, hfirst⟩ := starts_at_first (SyncWord.length_bits _) hquiet hi hp hstart
  exact ⟨hlead pattern hp hagrees, hfirst⟩

/-- Frames on air, each behind a sync word. -/
def onAir (frames : List (List Symbol)) : List Bool := frames.flatMap (airBits .fsk)

theorem onAir_cons (symbols : List Symbol) (frames : List (List Symbol)) :
    onAir (symbols :: frames) =
      SyncWord.fsk.bits ++ (symbols.flatMap Symbol.bits ++ onAir frames) := by
  rw [onAir, List.flatMap_cons, airBits, List.append_assoc]
  rfl

theorem follows_onAir (rd : Disparity) (frames : List (List Symbol)) :
    Follows rd (onAir frames ++ SyncWord.fsk.bits) := by
  cases frames with
  | nil => exact follows_sync rd []
  | cons symbols frames =>
    rw [onAir_cons, List.append_assoc]
    exact follows_sync rd _

/-- In frames of data symbols, with a sync word behind the last one, a forbidden pattern is a comma
at the first bit of a frame. -/
theorem onAir_starts (frames : List (List Symbol)) (hdata : ∀ symbols ∈ frames, CarriesData symbols)
    (i : Nat) (hi : i < (onAir frames).length) (pattern : List Bool) (hp : pattern ∈ forbidden)
    (hstart : StartsAt pattern (onAir frames ++ SyncWord.fsk.bits) i) :
    pattern = comma ∧ ∃ k < frames.length, i = (onAir (frames.take k)).length := by
  induction frames generalizing i with
  | nil => simp [onAir] at hi
  | cons symbols frames ih =>
    obtain ⟨rd, bytes, hsymbols⟩ := hdata symbols List.mem_cons_self
    obtain ⟨hfollows, hquiet⟩ :=
      quiet_encodeAll rd bytes (onAir frames ++ SyncWord.fsk.bits) fun rd => follows_onAir rd frames
    rw [← hsymbols] at hfollows hquiet
    have hsync : SyncWord.fsk.bits.length = 10 := SyncWord.length_bits _
    rw [onAir_cons, List.append_assoc, List.append_assoc] at hstart
    rw [onAir_cons, List.length_append, List.length_append, hsync] at hi
    -- The position lies in the sync word, in the symbols or in a later frame.
    by_cases hlead : i < 10
    · obtain ⟨hcomma, rfl⟩ := sync_starts rd _ hfollows i hlead pattern hp hstart
      exact ⟨hcomma, 0, Nat.succ_pos _, rfl⟩
    · obtain ⟨j, rfl⟩ := Nat.exists_eq_add_of_le (Nat.le_of_not_lt hlead)
      rw [← hsync, startsAt_append_right] at hstart
      by_cases hinside : j < (symbols.flatMap Symbol.bits).length
      · exact absurd hstart (not_startsAt_of_quiet hquiet hinside hp)
      · obtain ⟨m, rfl⟩ := Nat.exists_eq_add_of_le (Nat.le_of_not_lt hinside)
        rw [startsAt_append_right] at hstart
        obtain ⟨hcomma, k, hk, rfl⟩ :=
          ih (fun symbols hmem => hdata symbols (List.mem_cons_of_mem _ hmem)) m (by omega) hstart
        refine ⟨hcomma, k + 1, by simpa using hk, ?_⟩
        rw [List.take_succ_cons, onAir_cons, List.length_append, List.length_append, hsync]

theorem comma_startsAt_onAir (frames : List (List Symbol)) (k : Nat) (hk : k < frames.length) :
    StartsAt comma (onAir frames) (onAir (frames.take k)).length := by
  have hsplit : onAir frames = onAir (frames.take k) ++ onAir (frames.drop k) := by
    rw [onAir, onAir, onAir, ← List.flatMap_append, List.take_append_drop]
  have hlead : comma <+: SyncWord.fsk.bits := by decide
  rw [hsplit, ← Nat.add_zero (onAir (frames.take k)).length, startsAt_append_right,
    List.drop_eq_getElem_cons hk, onAir_cons]
  exact hlead.trans (List.prefix_append _ _)

/-- In frames of data symbols a comma starts exactly at the first bit of each frame, and neither an
inverse comma nor six equal bits occur at all. -/
theorem commas_onAir (frames : List (List Symbol))
    (hdata : ∀ symbols ∈ frames, CarriesData symbols) :
    (∀ i, StartsAt comma (onAir frames) i ↔
      ∃ k < frames.length, i = (onAir (frames.take k)).length) ∧
    (∀ i, ¬StartsAt inverseComma (onAir frames) i) ∧
    ∀ i b, ¬StartsAt (List.replicate 6 b) (onAir frames) i := by
  -- A sync word behind the last frame gives its last symbol something to be followed by.
  have hforbidden : ∀ i, ∀ pattern ∈ forbidden, StartsAt pattern (onAir frames) i →
      pattern = comma ∧ ∃ k < frames.length, i = (onAir (frames.take k)).length := by
    intro i pattern hp hstart
    have hi : i < (onAir frames).length := lt_length_of_startsAt hstart hp
    exact onAir_starts frames hdata i hi pattern hp (hstart.append hi.le _)
  refine ⟨fun i => ⟨fun h => (hforbidden i comma (by decide) h).2, ?_⟩, ?_, ?_⟩
  · rintro ⟨k, hk, rfl⟩
    exact comma_startsAt_onAir frames k hk
  · intro i h
    exact absurd (hforbidden i _ (by decide) h).1 (by decide)
  · intro i b h
    have hmem : List.replicate 6 b ∈ forbidden := by
      cases b <;> decide
    have hcomma := (hforbidden i _ hmem h).1
    cases b with
    | false => exact absurd hcomma (by decide)
    | true => exact absurd hcomma (by decide)

end LineCode

end Downlink
