import Mathlib
import Downlink.Proofs.Modulator.Counters

/-!
# Buffers position by position

A bit puts its samples behind those of the buffer. Each hangs on the clock, the polarity and the
distance to the last edge alone. Of the samples that were there, only a reversal changes any: the
last ones, as many as an edge has, in a buffer that is longer than that.
-/

namespace Downlink

/-- Behind an edge its distance is not heard. -/
theorem Waveform.sampleAt_of_ramp_le (w : Waveform) (polarity : Polarity) (clock since since' : Nat)
    (h : w.ramp ≤ since) (h' : w.ramp ≤ since') :
    w.sampleAt polarity clock since = w.sampleAt polarity clock since' := by
  have hout : ¬since < w.ramp := by omega
  have hout' : ¬since' < w.ramp := by omega
  simp only [sampleAt, levelAt, waveAt, hout, hout', if_false]

namespace Modulator

/-! ### What goes on from buffer to buffer -/

/-- A modulator without the place of its edge, which belongs to a buffer. -/
def carried (m : Modulator) : Modulator := { m with edge := 0 }

theorem carried_eq_iff (m m' : Modulator) :
    m.carried = m'.carried ↔
      m.waveform = m'.waveform ∧ m.polarity = m'.polarity ∧ m.clock = m'.clock ∧
        m.reversals = m'.reversals := by
  simp [carried]

theorem carried_turn (m m' : Modulator) (bit : Bool) (out out' : Array Int16)
    (h : m.carried = m'.carried) :
    (m.turn bit out).1.carried = (m'.turn bit out').1.carried := by
  obtain ⟨hwaveform, hpolarity, hclock, hreversals⟩ := (carried_eq_iff m m').mp h
  rw [carried_eq_iff]
  rw [turn, turn, ← hwaveform]
  cases m.waveform.modulation with
  | fsk => exact ⟨rfl, rfl, hclock, hreversals⟩
  | bpsk =>
    cases bit with
    | true => exact ⟨hwaveform, hpolarity, hclock, hreversals⟩
    | false =>
      exact ⟨hwaveform, congrArg Polarity.flip hpolarity, hclock, congrArg (· + 1) hreversals⟩

theorem clock_turn (m : Modulator) (bit : Bool) (out : Array Int16) :
    (m.turn bit out).1.clock = m.clock := by
  unfold turn
  cases m.waveform.modulation with
  | fsk => rfl
  | bpsk => cases bit <;> rfl

/-- A modulator at work on a buffer: its edge lies inside. -/
def seated (m : Modulator) (out : Array Int16) : Modulator := { m with edge := min m.edge out.size }

theorem pushBit_eq (m : Modulator) (bit : Bool) (out : Array Int16) :
    m.pushBit bit out =
      ({ ((m.seated out).turn bit out).1 with clock := m.clock + m.waveform.samplesPerBit },
        ((m.seated out).turn bit out).1.emit m.waveform.samplesPerBit m.clock
          ((m.seated out).turn bit out).2) := by
  have hwaveform : ((m.seated out).turn bit out).1.waveform = m.waveform :=
    turn_waveform (m.seated out) bit out
  have hclock : ((m.seated out).turn bit out).1.clock = m.clock :=
    clock_turn (m.seated out) bit out
  show (let turned := (m.seated out).turn bit out
    ({ turned.1 with clock := turned.1.clock + turned.1.waveform.samplesPerBit },
      turned.1.emit turned.1.waveform.samplesPerBit turned.1.clock turned.2)) = _
  simp only [hwaveform, hclock]

theorem carried_pushBit (m m' : Modulator) (bit : Bool) (out out' : Array Int16)
    (h : m.carried = m'.carried) :
    (m.pushBit bit out).1.carried = (m'.pushBit bit out').1.carried := by
  have hturn := carried_turn (m.seated out) (m'.seated out') bit out out' h
  obtain ⟨hwaveform, hpolarity, -, hreversals⟩ := (carried_eq_iff _ _).mp hturn
  obtain ⟨hsame, -, hclock, -⟩ := (carried_eq_iff m m').mp h
  rw [carried_eq_iff, pushBit_eq, pushBit_eq, hsame, hclock]
  exact ⟨hwaveform, hpolarity, rfl, hreversals⟩

/-! ### Samples that were there -/

theorem getElem?_fadeLast (w : Waveform) (n : Nat) (out : Array Int16) (i : Nat)
    (hn : n ≤ out.size) :
    (fadeLast w n out)[i]? =
      if out.size ≤ i + n then out[i]?.map (w.faded (out.size - i)) else out[i]? := by
  induction n generalizing out with
  | zero =>
    rw [fadeLast]
    split
    · rename_i hi
      have hnone : out[i]? = none := Array.getElem?_eq_none (by omega)
      rw [hnone, Option.map_none]
    · rfl
  | succ n ih =>
    rw [fadeLast, ih _ (by rw [Array.size_modify]; omega), Array.size_modify,
      Array.getElem?_modify]
    by_cases hi : out.size - (n + 1) = i
    · have hback : out.size - i = n + 1 := by omega
      rw [if_pos hi, if_neg (by omega), if_pos (by omega), hback]
    · rw [if_neg hi]
      by_cases hlast : out.size ≤ i + n
      · rw [if_pos hlast, if_pos (by omega)]
      · rw [if_neg hlast, if_neg (by omega)]

theorem getElem?_reverse (m : Modulator) (out : Array Int16) (i : Nat) :
    (m.reverse out).2[i]? =
      if m.waveform.ramp < out.size ∧ out.size ≤ i + m.waveform.ramp then
        out[i]?.map (m.waveform.faded (out.size - i))
      else out[i]? := by
  simp only [reverse]
  by_cases hlong : m.waveform.ramp < out.size
  · rw [if_pos hlong, getElem?_fadeLast _ _ _ _ (Nat.le_of_lt hlong)]
    simp only [hlong, true_and]
  · rw [if_neg hlong, if_neg fun h => hlong h.1]

/-- Whether a bit turns the phase. -/
def Turns (m : Modulator) (bit : Bool) : Prop := m.waveform.modulation = .bpsk ∧ bit = false

theorem turn_of_turns (m : Modulator) (bit : Bool) (out : Array Int16) (h : m.Turns bit) :
    m.turn bit out = m.reverse out := by
  obtain ⟨hbpsk, rfl⟩ := h
  simp [turn, hbpsk]

theorem turn_of_not_turns (m : Modulator) (bit : Bool) (out : Array Int16) (h : ¬m.Turns bit) :
    (m.turn bit out).2 = out ∧ (m.turn bit out).1.edge = m.edge := by
  unfold Turns at h
  unfold turn
  cases hmodulation : m.waveform.modulation with
  | fsk => exact ⟨rfl, rfl⟩
  | bpsk =>
    cases bit with
    | true => exact ⟨rfl, rfl⟩
    | false => exact absurd ⟨hmodulation, rfl⟩ h

/-- A bit leaves the edge in the buffer that it was given. -/
theorem edge_turn_le (m : Modulator) (bit : Bool) (out : Array Int16) :
    ((m.seated out).turn bit out).1.edge ≤ out.size := by
  by_cases hturns : (m.seated out).Turns bit
  · rw [turn_of_turns _ _ _ hturns]
    exact Nat.le_refl out.size
  · rw [(turn_of_not_turns _ _ _ hturns).2]
    exact Nat.min_le_right m.edge out.size

/-! ### Samples that are added -/

theorem getElem?_emit (m : Modulator) (n clock : Nat) (out : Array Int16) (i : Nat) :
    (m.emit n clock out)[i]? =
      if i < out.size then out[i]?
      else if i < out.size + n then
        some (m.waveform.sampleAt m.polarity (clock + (i - out.size)) (i - m.edge))
      else none := by
  induction n generalizing clock out with
  | zero =>
    rw [emit]
    by_cases hi : i < out.size
    · rw [if_pos hi]
    · rw [if_neg hi, if_neg (by omega)]
      exact Array.getElem?_eq_none (by omega)
  | succ n ih =>
    rw [emit, ih, Array.size_push, Array.getElem?_push]
    by_cases hi : i < out.size
    · rw [if_pos (by omega), if_neg (by omega), if_pos hi]
    · by_cases heq : i = out.size
      · have hclock : clock + (i - out.size) = clock := by omega
        rw [if_pos (by omega), if_pos heq, if_neg hi, if_pos (by omega), hclock, heq]
      · have hclock : clock + 1 + (i - (out.size + 1)) = clock + (i - out.size) := by omega
        rw [if_neg (by omega), if_neg hi, hclock]
        by_cases hn : i < out.size + (n + 1)
        · rw [if_pos (by omega), if_pos hn]
        · rw [if_neg (by omega), if_neg hn]

theorem getElem?_pushBit (m : Modulator) (bit : Bool) (out : Array Int16) (i : Nat) :
    (m.pushBit bit out).2[i]? =
      if i < out.size then ((m.seated out).turn bit out).2[i]?
      else if i < out.size + m.waveform.samplesPerBit then
        some (m.waveform.sampleAt ((m.seated out).turn bit out).1.polarity
          (m.clock + (i - out.size)) (i - ((m.seated out).turn bit out).1.edge))
      else none := by
  have hwaveform : ((m.seated out).turn bit out).1.waveform = m.waveform :=
    turn_waveform (m.seated out) bit out
  rw [pushBit_eq, getElem?_emit, size_turn, hwaveform]

theorem edge_seated_pushBit (m : Modulator) (bit : Bool) (out : Array Int16) :
    ((m.pushBit bit out).1.seated (m.pushBit bit out).2).edge =
      ((m.seated out).turn bit out).1.edge := by
  have hinside := edge_turn_le m bit out
  have hedge : (m.pushBit bit out).1.edge = ((m.seated out).turn bit out).1.edge := by
    rw [pushBit_eq]
  rw [seated, hedge, size_pushBit]
  exact Nat.min_eq_left (by omega)

end Modulator

end Downlink
