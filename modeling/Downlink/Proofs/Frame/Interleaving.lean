import Mathlib
import Downlink.Frame.Interleaved
import Downlink.Proofs.Frame.Slots
import Downlink.Proofs.Parity.Codeword

/-!
# Filling the slots

Behind the checks of an interleaved frame nothing fails: there is a byte for every slot, a register
for every sub-frame and room in every codeword. The bytes written are the header and the copies of
the payload, and each sub-frame has the parity of its own bytes.
-/

namespace Downlink

/-- The bytes among `written` whose slots lie in a sub-frame. -/
def bytesOf (slots : List Slot) (written : List UInt8) (s : Nat) : List UInt8 :=
  ((slots.zip written).filter fun p => p.1.subFrame == s).map Prod.snd

theorem bytesOf_cons (slot : Slot) (slots : List Slot) (byte : UInt8) (written : List UInt8)
    (s : Nat) :
    bytesOf (slot :: slots) (byte :: written) s =
      if slot.subFrame = s then byte :: bytesOf slots written s else bytesOf slots written s := by
  by_cases h : slot.subFrame = s <;> simp [bytesOf, h]

theorem length_bytesOf (slots : List Slot) (written : List UInt8)
    (h : slots.length = written.length) (s : Nat) :
    (bytesOf slots written s).length = slots.countP fun slot => slot.subFrame == s := by
  induction slots generalizing written with
  | nil => simp [bytesOf]
  | cons slot slots ih =>
    obtain ⟨byte, written, rfl⟩ := List.exists_cons_of_length_eq_add_one h.symm
    have hrest := ih written (by simpa using h)
    rw [bytesOf_cons, List.countP_cons, ← hrest]
    by_cases hs : slot.subFrame = s <;> simp [hs]

/-- A frame that carries a header and a payload in the slots of a layout: a byte for every slot, and
for each sub-frame the parity of the bytes in its slots. -/
structure InterleavedFrame.Carries (frame : InterleavedFrame) (l : Layout)
    (header payload : List UInt8) : Prop where
  written_eq : frame.written = header ++ (List.replicate l.copies payload).flatten
  length_slots : l.slots.length = frame.written.length
  length_parity : frame.parity.length = l.subFrames
  parity_eq : ∀ (s : Nat) (p : Parity), frame.parity[s]? = some p →
    parityOf (bytesOf l.slots frame.written s) = .ok p

namespace Layout

/-- The header followed by the copies of the payload. -/
def logicalBytes (l : Layout) (header payload : List UInt8) : List UInt8 :=
  header ++ (List.replicate l.copies payload).flatten

theorem length_logicalBytes (l : Layout) (header payload : List UInt8)
    (hheader : header.length = l.headerLength) (hpayload : payload.length = l.payloadLength) :
    (l.logicalBytes header payload).length = l.logicalLength := by
  simp [logicalBytes, logicalLength, hheader, hpayload, Nat.mul_comm]

theorem getElem?_flatten_replicate (n : Nat) (xs : List UInt8) (i : Nat) (h : i < n * xs.length) :
    (List.replicate n xs).flatten[i]? = xs[i % xs.length]? := by
  induction n generalizing i with
  | zero => omega
  | succ n ih =>
    rw [List.replicate_succ, List.flatten_cons]
    by_cases hi : i < xs.length
    · rw [List.getElem?_append_left hi, Nat.mod_eq_of_lt hi]
    · have hle : xs.length ≤ i := Nat.le_of_not_lt hi
      have hrest : i - xs.length < n * xs.length := by
        rw [Nat.succ_mul] at h
        omega
      rw [List.getElem?_append_right hle, ih _ hrest, Nat.mod_eq_sub_mod hle]

theorem logicalByte?_eq_getElem? (l : Layout) (header payload : List UInt8) (i : Nat)
    (hheader : header.length = l.headerLength) (hpayload : payload.length = l.payloadLength)
    (h : i < l.logicalLength) :
    l.logicalByte? header payload i = (l.logicalBytes header payload)[i]? := by
  rw [logicalByte?, logicalBytes]
  by_cases hi : i < l.headerLength
  · rw [if_pos hi, List.getElem?_append_left (hheader ▸ hi)]
  · have hcopy : i - header.length < l.copies * payload.length := by
      rw [logicalLength, Nat.mul_comm] at h
      rw [hheader, hpayload]
      omega
    rw [if_neg hi, List.getElem?_append_right (by omega), getElem?_flatten_replicate _ _ _ hcopy,
      hheader, hpayload]

/-! ### Registers -/

theorem feedRegister_eq_ok (registers : List ParityRegister) (s : Nat) (byte : UInt8)
    (r : ParityRegister) (hr : registers[s]? = some r) (hroom : r.count < informationBytes) :
    feedRegister registers s byte =
      .ok (registers.set s ⟨ParityRegister.shift r.parity byte, r.count + 1⟩) := by
  have hfeed : r.feed byte = .ok ⟨ParityRegister.shift r.parity byte, r.count + 1⟩ :=
    if_neg (Nat.not_le.mpr hroom)
  rw [feedRegister, hr]
  simp only [hfeed]
  rfl

/-- Every register has room for the bytes that are still to come for it. -/
def HasRoom (registers : List ParityRegister) (slots : List Slot) : Prop :=
  ∀ s r, registers[s]? = some r →
    r.count + slots.countP (fun slot => slot.subFrame == s) ≤ informationBytes

theorem hasRoom_set (registers : List ParityRegister) (slot : Slot) (slots : List Slot)
    (r next : ParityRegister) (hr : registers[slot.subFrame]? = some r)
    (hnext : next.count = r.count + 1) (h : HasRoom registers (slot :: slots)) :
    HasRoom (registers.set slot.subFrame next) slots := by
  have hslot : slot.subFrame < registers.length := (List.getElem?_eq_some_iff.mp hr).1
  intro s q hq
  rw [List.getElem?_set] at hq
  by_cases hs : slot.subFrame = s
  · subst hs
    simp only [if_true, hslot] at hq
    obtain rfl := Option.some.inj hq
    have hcount := h slot.subFrame r hr
    rw [List.countP_cons_of_pos (by simp)] at hcount
    omega
  · rw [if_neg hs] at hq
    have hother := h s q hq
    rwa [List.countP_cons_of_neg (by simpa using hs)] at hother

theorem mapIdx_bytesOf_cons (registers : List ParityRegister) (slot : Slot) (slots : List Slot)
    (byte : UInt8) (bytes : List UInt8) (r : ParityRegister) (count : Nat)
    (hr : registers[slot.subFrame]? = some r) :
    (registers.set slot.subFrame ⟨ParityRegister.shift r.parity byte, count⟩).mapIdx
        (fun s q => (bytesOf slots bytes s).foldl ParityRegister.shift q.parity) =
      registers.mapIdx fun s q =>
        (bytesOf (slot :: slots) (byte :: bytes) s).foldl ParityRegister.shift q.parity := by
  apply List.ext_getElem
  · simp
  · intro s h₁ h₂
    have hs : s < registers.length := by simpa using h₂
    obtain ⟨hslot, hget⟩ := List.getElem?_eq_some_iff.mp hr
    rw [List.getElem_mapIdx, List.getElem_mapIdx, List.getElem_set, bytesOf_cons]
    by_cases hsub : slot.subFrame = s
    · subst hsub
      simp [hget]
    · simp [hsub]

/-- Filling slots for which there are bytes, registers and room. -/
theorem fill_eq_ok (l : Layout) (header payload bytes : List UInt8) (i : Nat)
    (registers : List ParityRegister) (slots : List Slot) (hlen : slots.length = bytes.length)
    (hbyte : ∀ k < bytes.length, l.logicalByte? header payload (i + k) = bytes[k]?)
    (hplace : ∀ slot ∈ slots, slot.subFrame < registers.length)
    (hroom : HasRoom registers slots) :
    l.fill header payload i registers slots =
      .ok ⟨bytes, registers.mapIdx fun s r =>
        (bytesOf slots bytes s).foldl ParityRegister.shift r.parity⟩ := by
  induction slots generalizing i registers bytes with
  | nil =>
    have hnil : bytes = [] := List.length_eq_zero_iff.mp hlen.symm
    rw [fill, hnil]
    congr 2
    apply List.ext_getElem
    · simp
    · intro s h₁ h₂
      simp [bytesOf]
  | cons slot slots ih =>
    obtain ⟨byte, bytes, rfl⟩ := List.exists_cons_of_length_eq_add_one hlen.symm
    have hhead : l.logicalByte? header payload i = some byte := hbyte 0 (by simp)
    have hslot := hplace slot List.mem_cons_self
    obtain ⟨r, hr⟩ : ∃ r, registers[slot.subFrame]? = some r :=
      ⟨_, List.getElem?_eq_getElem hslot⟩
    have hcount := hroom slot.subFrame r hr
    rw [List.countP_cons_of_pos (by simp)] at hcount
    have hfeed := feedRegister_eq_ok registers slot.subFrame byte r hr (by omega)
    have hnext : ∀ k < bytes.length, l.logicalByte? header payload (i + 1 + k) = bytes[k]? := by
      intro k hk
      rw [Nat.add_right_comm, Nat.add_assoc]
      exact hbyte (k + 1) (by simpa using hk)
    have hplaces : ∀ next ∈ slots, next.subFrame < (registers.set slot.subFrame
        ⟨ParityRegister.shift r.parity byte, r.count + 1⟩).length := by
      intro next hmem
      rw [List.length_set]
      exact hplace next (List.mem_cons_of_mem _ hmem)
    have hrest := ih bytes (i + 1) _ (by simpa using hlen) hnext hplaces
      (hasRoom_set registers slot slots r _ hr rfl hroom)
    rw [mapIdx_bytesOf_cons registers slot slots byte bytes r _ hr] at hrest
    rw [fill, hhead]
    simp only [hfeed, bind, Except.bind, hrest]
    rfl

/-! ### Outcomes -/

theorem length_bytesOf_slots_le (l : Layout) (h : l.Consistent) (written : List UInt8)
    (hlen : l.slots.length = written.length) (s : Nat) :
    (bytesOf l.slots written s).length ≤ informationBytes := by
  rw [length_bytesOf l.slots written hlen]
  exact (l.countP_slots_le s).trans h.columns_le

theorem interleave_eq_ok (l : Layout) (header payload : List UInt8) (h : l.Consistent)
    (hheader : header.length = l.headerLength) (hpayload : payload.length = l.payloadLength) :
    l.interleave header payload =
      .ok ⟨l.logicalBytes header payload,
        (List.range l.subFrames).map fun s =>
          remainder (bytesOf l.slots (l.logicalBytes header payload) s)⟩ := by
  have hlen : l.slots.length = (l.logicalBytes header payload).length := by
    rw [l.length_slots h, l.length_logicalBytes header payload hheader hpayload]
  have hfill := l.fill_eq_ok header payload (l.logicalBytes header payload) 0
    (List.replicate l.subFrames .empty) l.slots hlen
    (by
      intro k hk
      rw [Nat.zero_add]
      rw [l.length_logicalBytes header payload hheader hpayload] at hk
      exact l.logicalByte?_eq_getElem? header payload k hheader hpayload hk)
    (by
      intro slot hslot
      rw [List.length_replicate]
      exact ((l.mem_slots slot).mp hslot).2.1)
    (by
      intro s r hr
      obtain rfl := List.eq_of_mem_replicate (List.mem_of_getElem? hr)
      rw [ParityRegister.empty, Nat.zero_add]
      exact (l.countP_slots_le s).trans h.columns_le)
  rw [interleave, (l.validate_eq_ok_iff).mpr h]
  simp only [bind, Except.bind, hheader, hpayload, ne_eq, not_true_eq_false, if_false, hfill]
  congr 2
  apply List.ext_getElem
  · simp
  · intro s h₁ h₂
    simp [remainder, ParityRegister.empty]

theorem carries_of_interleave (l : Layout) (header payload : List UInt8) (frame : InterleavedFrame)
    (h : l.Consistent) (hheader : header.length = l.headerLength)
    (hpayload : payload.length = l.payloadLength)
    (hok : l.interleave header payload = .ok frame) : frame.Carries l header payload := by
  rw [l.interleave_eq_ok header payload h hheader hpayload] at hok
  obtain rfl := Except.ok.inj hok
  have hlen : l.slots.length = (l.logicalBytes header payload).length := by
    rw [l.length_slots h, l.length_logicalBytes header payload hheader hpayload]
  refine ⟨rfl, hlen, by simp, ?_⟩
  intro s p hp
  simp only [List.getElem?_map, Option.map_eq_some_iff] at hp
  obtain ⟨t, ht, rfl⟩ := hp
  obtain ⟨hs, rfl⟩ := List.getElem?_eq_some_iff.mp ht
  rw [List.getElem_range]
  exact parityOf_eq_ok _ (l.length_bytesOf_slots_le h _ hlen _)

theorem length_written (l : Layout) (header payload : List UInt8) (frame : InterleavedFrame)
    (h : l.Consistent) (hcarries : frame.Carries l header payload) :
    frame.written.length = l.logicalLength := by
  rw [← hcarries.length_slots, l.length_slots h]

theorem take_written (l : Layout) (header payload : List UInt8) (frame : InterleavedFrame)
    (hheader : header.length = l.headerLength) (hcarries : frame.Carries l header payload) :
    frame.written.take l.headerLength = header := by
  rw [hcarries.written_eq]
  exact List.take_left' hheader

/-- The first copy of the payload stands behind the header. -/
theorem take_drop_written (l : Layout) (header payload : List UInt8) (frame : InterleavedFrame)
    (hheader : header.length = l.headerLength) (hpayload : payload.length = l.payloadLength)
    (hcopies : 1 ≤ l.copies) (hcarries : frame.Carries l header payload) :
    (frame.written.drop l.headerLength).take l.payloadLength = payload := by
  obtain ⟨more, hmore⟩ : ∃ more, l.copies = more + 1 := ⟨l.copies - 1, by omega⟩
  rw [hcarries.written_eq, List.drop_left' hheader, hmore, List.replicate_succ,
    List.flatten_cons, List.take_left' hpayload]

/-- The bytes of a sub-frame and the parity sent for them are a codeword. -/
theorem syndromes_subFrame (l : Layout) (header payload : List UInt8) (frame : InterleavedFrame)
    (h : l.Consistent) (hcarries : frame.Carries l header payload) (s : Nat) (p : Parity)
    (hp : frame.parity[s]? = some p) :
    syndromes (bytesOf l.slots frame.written s ++ p.toList) = List.replicate parityBytes 0 := by
  have hparity := hcarries.parity_eq s p hp
  rw [parityOf_eq_ok _ (l.length_bytesOf_slots_le h _ hcarries.length_slots s)] at hparity
  obtain rfl := Except.ok.inj hparity
  exact syndromes_codeword _

theorem interleave_checked_or_error (l : Layout) (header payload : List UInt8) :
    (l.validate = .ok () ∧ header.length = l.headerLength ∧ payload.length = l.payloadLength) ∨
      ∃ e, l.interleave header payload = .error e ∧
        (l.validate = .error e ∨ e = .argument (.headerLength header.length l.headerLength) ∨
          e = .argument (.payloadLength payload.length l.payloadLength)) := by
  cases hvalid : l.validate with
  | error fault =>
    refine Or.inr ⟨fault, ?_, Or.inl rfl⟩
    rw [interleave, hvalid]
    rfl
  | ok =>
    by_cases hheader : header.length = l.headerLength
    · by_cases hpayload : payload.length = l.payloadLength
      · exact Or.inl ⟨rfl, hheader, hpayload⟩
      · refine Or.inr ⟨_, ?_, Or.inr (Or.inr rfl)⟩
        rw [interleave, hvalid]
        simp only [bind, Except.bind, hheader, hpayload, ne_eq, not_true_eq_false, if_false,
          not_false_eq_true, if_true]
        rfl
    · refine Or.inr ⟨_, ?_, Or.inr (Or.inl rfl)⟩
      rw [interleave, hvalid]
      simp only [bind, Except.bind, hheader, ne_eq, not_false_eq_true, if_true]
      rfl

/-- The checks are the only way to fail. -/
theorem interleave_eq_error (l : Layout) (header payload : List UInt8) (e : Error)
    (he : l.interleave header payload = .error e) :
    l.validate = .error e ∨ e = .argument (.headerLength header.length l.headerLength) ∨
      e = .argument (.payloadLength payload.length l.payloadLength) := by
  rcases l.interleave_checked_or_error header payload with hchecked | ⟨fault, hfault, hcause⟩
  · obtain ⟨hvalid, hheader, hpayload⟩ := hchecked
    have hok := l.interleave_eq_ok header payload (l.validate_eq_ok_iff.mp hvalid) hheader hpayload
    rw [hok] at he
    exact absurd he (by simp)
  · rw [hfault] at he
    obtain rfl := Except.error.inj he
    exact hcause

theorem interleave_ok_iff (l : Layout) (header payload : List UInt8) :
    (∃ frame, l.interleave header payload = .ok frame) ↔
      l.validate = .ok () ∧ header.length = l.headerLength ∧ payload.length = l.payloadLength := by
  constructor
  · rintro ⟨frame, hok⟩
    rcases l.interleave_checked_or_error header payload with hchecked | ⟨fault, hfault, -⟩
    · exact hchecked
    · rw [hok] at hfault
      exact absurd hfault (by simp)
  · rintro ⟨hvalid, hheader, hpayload⟩
    exact ⟨_, l.interleave_eq_ok header payload (l.validate_eq_ok_iff.mp hvalid) hheader hpayload⟩

/-- There is a byte for every slot, and a payload to repeat once the header is used up. -/
theorem logicalByte?_isSome (l : Layout) (header payload : List UInt8) (h : l.Consistent)
    (hheader : header.length = l.headerLength) (hpayload : payload.length = l.payloadLength)
    (i : Nat) (hi : i < l.slots.length) :
    (l.logicalByte? header payload i).isSome ∧ (l.headerLength ≤ i → 0 < l.payloadLength) := by
  rw [l.length_slots h] at hi
  have hlen := l.length_logicalBytes header payload hheader hpayload
  constructor
  · rw [l.logicalByte?_eq_getElem? header payload i hheader hpayload hi,
      List.getElem?_eq_getElem (hlen ▸ hi)]
    rfl
  · intro hle
    by_contra hzero
    have hnone : l.payloadLength = 0 := by omega
    rw [logicalLength, hnone, Nat.zero_mul] at hi
    omega

theorem validate_eq_error (l : Layout) (e : Error) (h : l.validate = .error e) :
    ∃ fault, e = .layout fault := by
  rw [validate] at h
  cases hfault : l.fault? with
  | none =>
    rw [hfault] at h
    exact absurd h (by simp)
  | some fault =>
    rw [hfault] at h
    exact ⟨fault, (Except.error.inj h).symm⟩

/-- Interleaving succeeds exactly for a valid layout, a header and a payload of its lengths, and
fails otherwise with what is wrong about them, never behind the checks. The slots are the cells of
the grid but the skipped one, each once and in order; for each there is a byte and a register, and
the frame carries the header and the payload. -/
theorem interleave_succeeds_iff_checked (l : Layout) (header payload : List UInt8) :
    ((∃ frame, l.interleave header payload = .ok frame) ↔
      l.validate = .ok () ∧ header.length = l.headerLength ∧ payload.length = l.payloadLength) ∧
    (∀ e, l.interleave header payload = .error e →
      l.validate = .error e ∨ e = .argument (.headerLength header.length l.headerLength) ∨
        e = .argument (.payloadLength payload.length l.payloadLength)) ∧
    (∀ held, l.interleave header payload ≠ .error (.codewordOverflow held)) ∧
    ∀ frame, l.interleave header payload = .ok frame →
      l.slots.Pairwise Slot.Before ∧
      (∀ slot, slot ∈ l.slots ↔
        slot.column < l.columns ∧ slot.subFrame < l.subFrames ∧ l.skipped ≠ some slot) ∧
      (∀ i < l.slots.length, (l.logicalByte? header payload i).isSome ∧
        (l.headerLength ≤ i → 0 < l.payloadLength)) ∧
      frame.Carries l header payload := by
  refine ⟨l.interleave_ok_iff header payload, l.interleave_eq_error header payload, ?_, ?_⟩
  · intro held he
    rcases l.interleave_eq_error header payload _ he with hfault | hfault | hfault
    · obtain ⟨fault, hlayout⟩ := l.validate_eq_error _ hfault
      exact absurd hlayout (by simp)
    · exact absurd hfault (by simp)
    · exact absurd hfault (by simp)
  · intro frame hok
    obtain ⟨hvalid, hheader, hpayload⟩ := (l.interleave_ok_iff header payload).mp ⟨frame, hok⟩
    have hcons := l.validate_eq_ok_iff.mp hvalid
    exact ⟨l.pairwise_slots, l.mem_slots,
      l.logicalByte?_isSome header payload hcons hheader hpayload,
      l.carries_of_interleave header payload frame hcons hheader hpayload hok⟩

theorem interleave_succeeds_skipped_slot :
    let header : List UInt8 := List.replicate 8 0x11
    let payload : List UInt8 := List.replicate 78 0x22
    bpsk.validate = .ok () ∧ header.length = 8 ∧ payload.length = 78 ∧
      ∃ frame, bpsk.interleave header payload = .ok frame ∧ ⟨158, 2⟩ ∉ bpsk.slots ∧
        frame.Carries bpsk header payload := by
  intro header payload
  have hheader : header.length = 8 := List.length_replicate
  have hpayload : payload.length = 78 := List.length_replicate
  obtain ⟨hiff, -, -, hfilled⟩ := interleave_succeeds_iff_checked bpsk header payload
  obtain ⟨frame, hframe⟩ := hiff.mpr ⟨validate_bpsk, hheader, hpayload⟩
  obtain ⟨-, hmem, -, hcarries⟩ := hfilled frame hframe
  have hskipped : (⟨158, 2⟩ : Slot) ∉ bpsk.slots := fun h => ((hmem _).mp h).2.2 rfl
  exact ⟨validate_bpsk, hheader, hpayload, frame, hframe, hskipped, hcarries⟩

end Layout

end Downlink
