import Mathlib
import Downlink.Modulator

/-!
# What bits add to a modulator

Whatever a buffer holds, each bit adds the samples of one bit to it, and each zero of a phase-shift
waveform turns the phase once. A frequency-shift waveform has no reversals.
-/

namespace Downlink

/-- How often bits turn the phase. -/
def Waveform.reversalsOf (w : Waveform) (bits : List Bool) : Nat :=
  match w.modulation with
  | .fsk => 0
  | .bpsk => bits.count false

theorem Waveform.reversalsOf_nil (w : Waveform) : w.reversalsOf [] = 0 := by
  unfold reversalsOf
  cases w.modulation <;> rfl

theorem Waveform.reversalsOf_append (w : Waveform) (xs ys : List Bool) :
    w.reversalsOf (xs ++ ys) = w.reversalsOf xs + w.reversalsOf ys := by
  unfold reversalsOf
  cases w.modulation with
  | fsk => rfl
  | bpsk => exact List.count_append

namespace Modulator

theorem turn_waveform (m : Modulator) (bit : Bool) (out : Array Int16) :
    (m.turn bit out).1.waveform = m.waveform := by
  unfold turn
  cases m.waveform.modulation with
  | fsk => rfl
  | bpsk => cases bit <;> rfl

theorem size_turn (m : Modulator) (bit : Bool) (out : Array Int16) :
    (m.turn bit out).2.size = out.size := by
  unfold turn
  cases m.waveform.modulation with
  | fsk => rfl
  | bpsk =>
    cases bit with
    | true => rfl
    | false =>
      show (m.reverse out).2.size = out.size
      simp only [reverse]
      split
      · exact size_fadeLast _ _ _
      · rfl

theorem reversals_turn (m : Modulator) (bit : Bool) (out : Array Int16) :
    (m.turn bit out).1.reversals = m.reversals + m.waveform.reversalsOf [bit] := by
  unfold turn Waveform.reversalsOf
  cases m.waveform.modulation with
  | fsk => rfl
  | bpsk => cases bit <;> rfl

theorem waveform_pushBit (m : Modulator) (bit : Bool) (out : Array Int16) :
    (m.pushBit bit out).1.waveform = m.waveform :=
  turn_waveform { m with edge := min m.edge out.size } bit out

theorem size_pushBit (m : Modulator) (bit : Bool) (out : Array Int16) :
    (m.pushBit bit out).2.size = out.size + m.waveform.samplesPerBit := by
  have hwaveform := turn_waveform { m with edge := min m.edge out.size } bit out
  simp only [pushBit, size_emit, size_turn, hwaveform]

theorem reversals_pushBit (m : Modulator) (bit : Bool) (out : Array Int16) :
    (m.pushBit bit out).1.reversals = m.reversals + m.waveform.reversalsOf [bit] :=
  reversals_turn { m with edge := min m.edge out.size } bit out

theorem waveform_pushBits (m : Modulator) (bits : List Bool) (out : Array Int16) :
    (m.pushBits bits out).1.waveform = m.waveform := by
  induction bits generalizing m out with
  | nil => rfl
  | cons bit bits ih => rw [pushBits_cons, ih, waveform_pushBit]

theorem size_pushBits (m : Modulator) (bits : List Bool) (out : Array Int16) :
    (m.pushBits bits out).2.size = out.size + bits.length * m.waveform.samplesPerBit := by
  induction bits generalizing m out with
  | nil => rw [pushBits_nil, List.length_nil, Nat.zero_mul, Nat.add_zero]
  | cons bit bits ih =>
    rw [pushBits_cons, ih, size_pushBit, waveform_pushBit, List.length_cons, Nat.succ_mul]
    omega

theorem reversals_pushBits (m : Modulator) (bits : List Bool) (out : Array Int16) :
    (m.pushBits bits out).1.reversals = m.reversals + m.waveform.reversalsOf bits := by
  induction bits generalizing m out with
  | nil => rw [pushBits_nil, Waveform.reversalsOf_nil, Nat.add_zero]
  | cons bit bits ih =>
    rw [pushBits_cons, ih, reversals_pushBit, waveform_pushBit, Nat.add_assoc,
      ← Waveform.reversalsOf_append, List.singleton_append]

end Modulator

end Downlink
