import Mathlib
import Downlink.Proofs.Modulator.Samples

/-!
# Seams between frames

Frames that share a buffer are heard as if each had a buffer of its own, but for one edge on either
side of a seam. A new buffer starts with an edge and has nothing in front that a reversal could
fade; further in, the two buffers cannot be told apart.
-/

namespace Downlink.Modulator

/-- Adds frames to one buffer. -/
def pushAll (m : Modulator) (frames : List (List Bool)) (out : Array Int16) :
    Modulator × Array Int16 :=
  frames.foldl (fun (m, out) bits => m.pushBits bits out) (m, out)

/-- Puts each frame into a buffer of its own. -/
def pushEach (m : Modulator) : List (List Bool) → Modulator × List (Array Int16)
  | [] => (m, [])
  | bits :: rest =>
    let (m, out) := m.pushBits bits #[]
    let (m, outs) := m.pushEach rest
    (m, out :: outs)

theorem pushAll_cons (m : Modulator) (bits : List Bool) (rest : List (List Bool))
    (out : Array Int16) :
    m.pushAll (bits :: rest) out =
      (m.pushBits bits out).1.pushAll rest (m.pushBits bits out).2 := rfl

theorem size_pushAll (m : Modulator) (frames : List (List Bool)) (out : Array Int16) :
    (m.pushAll frames out).2.size =
      out.size + frames.flatten.length * m.waveform.samplesPerBit := by
  induction frames generalizing m out with
  | nil => rw [List.flatten_nil, List.length_nil, Nat.zero_mul, Nat.add_zero]; rfl
  | cons bits rest ih =>
    rw [pushAll_cons, ih, size_pushBits, waveform_pushBits, List.flatten_cons, List.length_append,
      Nat.add_mul]
    omega

/-- The places within an edge of a seam. No seam is in front of the first sample. -/
def NearSeam (ramp seam i : Nat) : Prop := 0 < seam ∧ seam ≤ i + ramp ∧ i < seam + ramp

/-- One modulator works on a long buffer, another on a buffer that stands for the part of it behind
`front`. Both are at the same point, and apart from some places the samples are the same. The edges
are at the same place too, unless neither is heard away from the seam any more. -/
structure Beside (apart : Nat → Prop) (front : List Int16) (m m' : Modulator)
    (out out' : Array Int16) : Prop where
  carried_eq : m.carried = m'.carried
  size_eq : out.size = front.length + out'.size
  samples_eq : ∀ i, ¬apart i → out[i]? = (front ++ out'.toList)[i]?
  edge : (m.seated out).edge = front.length + (m'.seated out').edge ∨
    (m.seated out).edge ≤ front.length ∧ (m'.seated out').edge = 0

section
variable {apart : Nat → Prop} {front : List Int16} {m m' : Modulator} {out out' : Array Int16}

theorem Beside.waveform_eq (h : Beside apart front m m' out out') : m'.waveform = m.waveform :=
  ((carried_eq_iff m m').mp h.carried_eq).1.symm

theorem Beside.turns_iff (h : Beside apart front m m' out out') (bit : Bool) :
    (m'.seated out').Turns bit ↔ (m.seated out).Turns bit := by
  show m'.waveform.modulation = _ ∧ _ ↔ m.waveform.modulation = _ ∧ _
  rw [h.waveform_eq]

theorem Beside.samples_turn (h : Beside apart front m m' out out')
    (hseam : ∀ i, NearSeam m.waveform.ramp front.length i → apart i) (bit : Bool) (i : Nat)
    (hi : ¬apart i) :
    ((m.seated out).turn bit out).2[i]? =
      (front ++ ((m'.seated out').turn bit out').2.toList)[i]? := by
  have hsame := h.samples_eq i hi
  have hsize := h.size_eq
  have hfar : ¬NearSeam m.waveform.ramp front.length i := fun hnear => hi (hseam i hnear)
  by_cases hturns : (m.seated out).Turns bit
  · have hramp : (m'.seated out').waveform.ramp = m.waveform.ramp :=
      congrArg Waveform.ramp h.waveform_eq
    rw [turn_of_turns _ _ _ hturns, turn_of_turns _ _ _ ((h.turns_iff bit).mpr hturns),
      getElem?_reverse]
    rw [List.getElem?_append] at hsame ⊢
    unfold NearSeam at hfar
    by_cases hfront : i < front.length
    · -- In front of the seam only the long buffer could be faded, and only beside the seam.
      rw [if_pos hfront] at hsame ⊢
      rw [if_neg (by show ¬(m.waveform.ramp < _ ∧ _ ≤ i + m.waveform.ramp); omega), hsame]
    · rw [if_neg hfront, Array.getElem?_toList] at hsame ⊢
      rw [getElem?_reverse, hramp]
      show (if m.waveform.ramp < out.size ∧ out.size ≤ i + m.waveform.ramp then _ else _) = _
      by_cases hfades : m.waveform.ramp < out'.size ∧ out'.size ≤ i - front.length + m.waveform.ramp
      · have hback : out.size - i = out'.size - (i - front.length) := by omega
        have hwaveform : (m'.seated out').waveform = (m.seated out).waveform := h.waveform_eq
        rw [if_pos hfades, if_pos (by omega), hsame, hback, hwaveform]
      · rw [if_neg hfades]
        by_cases hlong : m.waveform.ramp < out.size ∧ out.size ≤ i + m.waveform.ramp
        · -- Too short to be faded, the buffer behind the seam lies beside it as a whole.
          have hend : out.size ≤ i := by omega
          have hnone : out[i]? = none := Array.getElem?_eq_none hend
          rw [if_pos hlong, hnone, Option.map_none, ← hsame, hnone]
        · rw [if_neg hlong, hsame]
  · have hturns' : ¬(m'.seated out').Turns bit := fun ht => hturns ((h.turns_iff bit).mp ht)
    rw [(turn_of_not_turns _ _ _ hturns).1, (turn_of_not_turns _ _ _ hturns').1]
    exact hsame

theorem Beside.edge_turn (h : Beside apart front m m' out out') (bit : Bool) :
    ((m.seated out).turn bit out).1.edge =
        front.length + ((m'.seated out').turn bit out').1.edge ∨
      ((m.seated out).turn bit out).1.edge ≤ front.length ∧
        ((m'.seated out').turn bit out').1.edge = 0 := by
  by_cases hturns : (m.seated out).Turns bit
  · rw [turn_of_turns _ _ _ hturns, turn_of_turns _ _ _ ((h.turns_iff bit).mpr hturns)]
    exact Or.inl h.size_eq
  · have hturns' : ¬(m'.seated out').Turns bit := fun ht => hturns ((h.turns_iff bit).mp ht)
    rw [(turn_of_not_turns _ _ _ hturns).2, (turn_of_not_turns _ _ _ hturns').2]
    exact h.edge

/-- The samples that a bit adds are the same: where the edges are not at the same place, neither is
heard any more. -/
theorem Beside.sample_eq (h : Beside apart front m m' out out')
    (hseam : ∀ i, NearSeam m.waveform.ramp front.length i → apart i) (bit : Bool) (i : Nat)
    (hi : ¬apart i) (hnew : out.size ≤ i) :
    m.waveform.sampleAt ((m.seated out).turn bit out).1.polarity (m.clock + (i - out.size))
        (i - ((m.seated out).turn bit out).1.edge) =
      m.waveform.sampleAt ((m'.seated out').turn bit out').1.polarity
        (m'.clock + (i - front.length - out'.size))
        (i - front.length - ((m'.seated out').turn bit out').1.edge) := by
  obtain ⟨-, -, hclock, -⟩ := (carried_eq_iff m m').mp h.carried_eq
  obtain ⟨-, hpolarity, -, -⟩ := (carried_eq_iff _ _).mp
    (carried_turn (m.seated out) (m'.seated out') bit out out' h.carried_eq)
  have hsize := h.size_eq
  have hfar : ¬NearSeam m.waveform.ramp front.length i := fun hnear => hi (hseam i hnear)
  have htick : i - front.length - out'.size = i - out.size := by omega
  unfold NearSeam at hfar
  rw [← hclock, ← hpolarity, htick]
  rcases h.edge_turn bit with hedge | ⟨hbehind, hzero⟩
  · have hsince : i - front.length - ((m'.seated out').turn bit out').1.edge =
        i - ((m.seated out).turn bit out).1.edge := by omega
    rw [hsince]
  · by_cases hfirst : front.length = 0
    · have hsince : i - front.length - ((m'.seated out').turn bit out').1.edge =
          i - ((m.seated out).turn bit out).1.edge := by omega
      rw [hsince]
    · exact m.waveform.sampleAt_of_ramp_le _ _ _ _ (by omega) (by omega)

theorem Beside.pushBit (h : Beside apart front m m' out out')
    (hseam : ∀ i, NearSeam m.waveform.ramp front.length i → apart i) (bit : Bool) :
    Beside apart front (m.pushBit bit out).1 (m'.pushBit bit out').1 (m.pushBit bit out).2
      (m'.pushBit bit out').2 := by
  have hcarried := carried_pushBit m m' bit out out' h.carried_eq
  have hsize : (m.pushBit bit out).2.size = front.length + (m'.pushBit bit out').2.size := by
    rw [size_pushBit, size_pushBit, h.size_eq, h.waveform_eq, Nat.add_assoc]
  refine ⟨hcarried, hsize, ?_, ?_⟩
  · intro i hi
    have hturn := h.samples_turn hseam bit i hi
    have hsample := h.sample_eq hseam bit i hi
    have hsizes := h.size_eq
    rw [List.getElem?_append] at hturn ⊢
    rw [getElem?_pushBit]
    by_cases hfront : i < front.length
    · rw [if_pos hfront] at hturn ⊢
      rw [if_pos (by omega), hturn]
    · rw [if_neg hfront, Array.getElem?_toList] at hturn ⊢
      rw [getElem?_pushBit, h.waveform_eq]
      by_cases hold : i < out.size
      · have hold' : i - front.length < out'.size := by omega
        rw [if_pos hold, if_pos hold', hturn]
      · have hold' : ¬i - front.length < out'.size := by omega
        have hnew : i < out.size + m.waveform.samplesPerBit ↔
            i - front.length < out'.size + m.waveform.samplesPerBit := by omega
        rw [if_neg hold, if_neg hold', hsample (by omega)]
        simp only [hnew]
  · rw [edge_seated_pushBit, edge_seated_pushBit]
    exact h.edge_turn bit

theorem Beside.pushBits (h : Beside apart front m m' out out')
    (hseam : ∀ i, NearSeam m.waveform.ramp front.length i → apart i) (bits : List Bool) :
    Beside apart front (m.pushBits bits out).1 (m'.pushBits bits out').1 (m.pushBits bits out).2
      (m'.pushBits bits out').2 := by
  induction bits generalizing m m' out out' with
  | nil => exact h
  | cons bit bits ih =>
    rw [pushBits_cons, pushBits_cons]
    refine ih (h.pushBit hseam bit) ?_
    rw [waveform_pushBit]
    exact hseam

end

/-- A modulator that starts a new buffer is beside one that goes on in its own. -/
theorem Beside.ofSeam {apart : Nat → Prop} {front : List Int16} {m m' : Modulator}
    {out : Array Int16} (hcarried : m.carried = m'.carried) (hsize : out.size = front.length)
    (hsamples : ∀ i, ¬apart i → out[i]? = front[i]?) :
    Beside apart front m m' out #[] := by
  refine ⟨hcarried, hsize, ?_, Or.inr ⟨?_, Nat.min_zero m'.edge⟩⟩
  · intro i hi
    rw [hsamples i hi, List.append_nil]
  · rw [← hsize]
    exact Nat.min_le_right m.edge out.size

theorem pushEach_beside (apart : Nat → Prop) (frames : List (List Bool)) (m m' : Modulator)
    (out : Array Int16) (front : List Int16) (hcarried : m.carried = m'.carried)
    (hsize : out.size = front.length) (hsamples : ∀ i, ¬apart i → out[i]? = front[i]?)
    (hseams : ∀ k < frames.length, ∀ i,
      NearSeam m.waveform.ramp (m.pushAll (frames.take k) out).2.size i → apart i) :
    (m.pushAll frames out).1.carried = (m'.pushEach frames).1.carried ∧
      (m.pushAll frames out).2.size =
        (front ++ (m'.pushEach frames).2.flatMap Array.toList).length ∧
      ∀ i, ¬apart i →
        (m.pushAll frames out).2[i]? = (front ++ (m'.pushEach frames).2.flatMap Array.toList)[i]? := by
  induction frames generalizing m m' out front with
  | nil =>
    rw [pushEach, List.flatMap_nil, List.append_nil]
    exact ⟨hcarried, hsize, hsamples⟩
  | cons bits rest ih =>
    have hfirst : ∀ i, NearSeam m.waveform.ramp front.length i → apart i := by
      rw [← hsize]
      exact hseams 0 (Nat.succ_pos rest.length)
    have hbeside := (Beside.ofSeam hcarried hsize hsamples).pushBits hfirst bits
    rw [pushAll_cons, pushEach, List.flatMap_cons, ← List.append_assoc]
    refine ih _ _ _ _ hbeside.carried_eq (hbeside.size_eq.trans List.length_append.symm)
      hbeside.samples_eq ?_
    intro k hk i
    rw [waveform_pushBits]
    exact hseams (k + 1) (Nat.succ_lt_succ hk) i

/-- Where a frame starts in the buffer that all frames share. -/
def frameStart (w : Waveform) (frames : List (List Bool)) (k : Nat) : Nat :=
  ((start w).pushAll (frames.take k) #[]).2.size

/-- The places within an edge of the start of the second or a later frame. -/
def NearLaterFrame (w : Waveform) (frames : List (List Bool)) (i : Nat) : Prop :=
  ∃ k, 0 < k ∧ k < frames.length ∧
    frameStart w frames k ≤ i + w.ramp ∧ i < frameStart w frames k + w.ramp

/-- Frames modulated into one buffer, and into a buffer of their own each, leave a modulator at the
same phase, clock and count of reversals. The buffers joined are as long as the one, and the same at
every place that is not within an edge of the start of the second or a later frame. -/
theorem shared_buffer_agrees_off_seams (w : Waveform) (frames : List (List Bool)) :
    let shared := (start w).pushAll frames #[]
    let own := (start w).pushEach frames
    let joined := own.2.flatMap Array.toList
    shared.1.polarity = own.1.polarity ∧ shared.1.clock = own.1.clock ∧
    shared.1.reversals = own.1.reversals ∧
    joined.length = shared.2.size ∧
    ∀ i, ¬NearLaterFrame w frames i → joined[i]? = shared.2[i]? := by
  intro shared own joined
  have hseams : ∀ k < frames.length, ∀ i,
      NearSeam w.ramp ((start w).pushAll (frames.take k) #[]).2.size i →
        NearLaterFrame w frames i := by
    intro k hk i hnear
    cases k with
    | zero => exact absurd hnear.1 (Nat.lt_irrefl 0)
    | succ k => exact ⟨k + 1, Nat.succ_pos k, hk, hnear.2⟩
  obtain ⟨hcarried, hsize, hsamples⟩ :=
    pushEach_beside (NearLaterFrame w frames) frames (start w) (start w) #[] [] rfl rfl
      (fun _ _ => rfl) hseams
  obtain ⟨-, hpolarity, hclock, hreversals⟩ := (carried_eq_iff _ _).mp hcarried
  exact ⟨hpolarity, hclock, hreversals, hsize.symm, fun i hi => (hsamples i hi).symm⟩

theorem shared_buffer_agrees_off_seams_bpsk :
    let frames : List (List Bool) := [[true, false], [false], [], [false, true]]
    let joined := ((start .bpsk).pushEach frames).2.flatMap Array.toList
    ¬NearLaterFrame .bpsk frames 100 ∧ joined.length = 200 ∧
      joined[100]? = ((start .bpsk).pushAll frames #[]).2[100]? := by
  intro frames joined
  have hramp : Waveform.bpsk.ramp = 8 := by decide +kernel
  have hfar : ¬NearLaterFrame .bpsk frames 100 := by
    rintro ⟨k, hpos, hk, hnear⟩
    rw [frameStart, size_pushAll, hramp] at hnear
    revert hnear
    have hcases : k = 1 ∨ k = 2 ∨ k = 3 := by
      have hlength : frames.length = 4 := rfl
      omega
    rcases hcases with rfl | rfl | rfl <;> decide
  obtain ⟨-, -, -, hlength, hsamples⟩ := shared_buffer_agrees_off_seams .bpsk frames
  rw [size_pushAll] at hlength
  exact ⟨hfar, hlength, hsamples 100 hfar⟩

end Downlink.Modulator
