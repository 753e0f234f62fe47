import Mathlib
import Downlink.Proofs.Modulator.Buffers

/-!
# Levels of a frequency-shift waveform

A frequency-shift waveform never moves its edge from the start of a buffer, so a sample hangs on the
bit that it shows and on its place alone. In the built-in waveform its sign is the bit, from the
second sample of a buffer on.
-/

namespace Downlink

namespace Waveform

/-- The sample that shows a bit at a place of a buffer. -/
def levelSample (w : Waveform) (bit : Bool) (place : Nat) : Int16 :=
  Truncation.sample32 (w.levelAt (.ofBit bit) place)

theorem sampleAt_of_fsk (w : Waveform) (bit : Bool) (clock place : Nat)
    (hfsk : w.modulation = .fsk) :
    w.sampleAt (.ofBit bit) clock place = w.levelSample bit place := by
  rw [sampleAt, hfsk]
  rfl

theorem levelSample_of_ramp_le (w : Waveform) (bit : Bool) (place : Nat) (h : w.ramp ≤ place) :
    w.levelSample bit place = w.levelSample bit w.ramp := by
  rw [levelSample, levelSample, levelAt, levelAt]
  rw [if_neg (Nat.not_lt.mpr h), if_neg (Nat.lt_irrefl _)]

theorem ramp_fsk : Waveform.fsk.ramp = 8 := by decide +kernel

theorem sign_levelSample_of_le (bit : Bool) (place : Nat) (hpos : 1 ≤ place) (hle : place ≤ 8) :
    (0 < Waveform.fsk.levelSample bit place ↔ bit = true) ∧
      (Waveform.fsk.levelSample bit place < 0 ↔ bit = false) := by
  revert bit
  interval_cases place <;> decide +kernel

/-- The sign of a sample is the bit that it shows. -/
theorem sign_levelSample (bit : Bool) (place : Nat) (hpos : 1 ≤ place) :
    (0 < Waveform.fsk.levelSample bit place ↔ bit = true) ∧
      (Waveform.fsk.levelSample bit place < 0 ↔ bit = false) := by
  rcases Nat.le_total place 8 with hnear | hfar
  · exact sign_levelSample_of_le bit place hpos hnear
  · rw [levelSample_of_ramp_le _ bit place (by rw [ramp_fsk]; exact hfar), ramp_fsk]
    exact sign_levelSample_of_le bit 8 (by decide) (Nat.le_refl 8)

theorem decide_levelSample (bit : Bool) (place : Nat) (hpos : 1 ≤ place) :
    decide (0 < Waveform.fsk.levelSample bit place) = bit := by
  have hsign := (sign_levelSample bit place hpos).1
  cases bit with
  | true => exact decide_eq_true (hsign.mpr rfl)
  | false => exact decide_eq_false fun h => Bool.noConfusion (hsign.mp h)

/-- Reads each bit off one sample of its period: a level above zero is a one. -/
def slice (w : Waveform) (samples : Array Int16) (pick : Nat → Nat) : List Bool :=
  (List.range (samples.size / w.samplesPerBit)).map fun k =>
    decide (0 < samples.getD (k * w.samplesPerBit + pick k) 0)

end Waveform

namespace Modulator

/-- A session that switches levels. Its edge has never left the start of a buffer. -/
structure Switches (w : Waveform) (m : Modulator) : Prop where
  modulation_eq : w.modulation = .fsk
  waveform_eq : m.waveform = w
  edge_eq : m.edge = 0

theorem Switches.start (w : Waveform) (h : w.modulation = .fsk) : Switches w (start w) :=
  ⟨h, rfl, rfl⟩

section
variable {w : Waveform} {m : Modulator}

theorem Switches.turn_eq (h : Switches w m) (bit : Bool) (out : Array Int16) :
    (m.seated out).turn bit out = ({ m with polarity := .ofBit bit, edge := 0 }, out) := by
  have hmodulation : (m.seated out).waveform.modulation = .fsk := by
    rw [← h.modulation_eq, ← h.waveform_eq]
    rfl
  rw [turn, hmodulation, seated, h.edge_eq, Nat.zero_min]

theorem Switches.pushBit (h : Switches w m) (bit : Bool) (out : Array Int16) :
    Switches w (m.pushBit bit out).1 := by
  refine ⟨h.modulation_eq, (waveform_pushBit m bit out).trans h.waveform_eq, ?_⟩
  rw [pushBit_eq, h.turn_eq]

theorem Switches.getElem?_pushBit (h : Switches w m) (bit : Bool) (out : Array Int16) (i : Nat) :
    (m.pushBit bit out).2[i]? =
      if i < out.size then out[i]?
      else if i < out.size + w.samplesPerBit then some (w.levelSample bit i)
      else none := by
  rw [Modulator.getElem?_pushBit, h.turn_eq, h.waveform_eq]
  simp only [w.sampleAt_of_fsk bit _ _ h.modulation_eq, Nat.sub_zero]

theorem Switches.takeBits (h : Switches w m) (given : List (Bool × Array Int16)) :
    Switches w (m.takeBits given) := by
  induction given generalizing m with
  | nil => exact h
  | cons first rest ih => exact ih (h.pushBit first.1 first.2)

theorem Switches.pushBits (h : Switches w m) (bits : List Bool) (out : Array Int16) :
    Switches w (m.pushBits bits out).1 := by
  induction bits generalizing m out with
  | nil => exact h
  | cons bit bits ih =>
    rw [pushBits_cons]
    exact ih (h.pushBit bit out) _

/-- Behind the samples that were there, each sample shows the bit of its period. -/
theorem Switches.getElem?_pushBits (h : Switches w m) (hbit : 0 < w.samplesPerBit)
    (bits : List Bool) (out : Array Int16) (i : Nat) :
    (m.pushBits bits out).2[i]? =
      if i < out.size then out[i]?
      else bits[(i - out.size) / w.samplesPerBit]?.map fun bit => w.levelSample bit i := by
  induction bits generalizing m out with
  | nil =>
    rw [pushBits_nil, List.getElem?_nil, Option.map_none]
    by_cases hold : i < out.size
    · rw [if_pos hold]
    · rw [if_neg hold]
      exact Array.getElem?_eq_none (Nat.le_of_not_lt hold)
  | cons bit bits ih =>
    have hsize : (m.pushBit bit out).2.size = out.size + w.samplesPerBit := by
      rw [size_pushBit, h.waveform_eq]
    rw [pushBits_cons, ih (h.pushBit bit out), hsize, h.getElem?_pushBit]
    by_cases hold : i < out.size
    · rw [if_pos (by omega), if_pos hold, if_pos hold]
    · rw [if_neg hold, if_neg hold]
      -- Behind the first bit every place is one period further than in the rest.
      by_cases hfirst : i < out.size + w.samplesPerBit
      · have hperiod : (i - out.size) / w.samplesPerBit = 0 := Nat.div_eq_of_lt (by omega)
        rw [if_pos hfirst, if_pos hfirst, hperiod]
        rfl
      · have hperiod : (i - out.size) / w.samplesPerBit =
            (i - (out.size + w.samplesPerBit)) / w.samplesPerBit + 1 := by
          rw [← Nat.add_div_right _ hbit]
          congr 1
          omega
        rw [if_neg hfirst, hperiod, List.getElem?_cons_succ]

/-- A session of the built-in waveform puts bits into a new buffer. They are read back off any one
sample of each, but for the first sample of the buffer. -/
theorem Switches.slice_pushBits (h : Switches .fsk m) (bits : List Bool) (pick : Nat → Nat)
    (hpick : ∀ k, pick k < Waveform.fsk.samplesPerBit) (hfirst : pick 0 ≠ 0) :
    Waveform.fsk.slice (m.pushBits bits #[]).2 pick = bits := by
  have hbit : 0 < Waveform.fsk.samplesPerBit := by decide
  have hcount : (m.pushBits bits #[]).2.size / Waveform.fsk.samplesPerBit = bits.length := by
    rw [size_pushBits, h.waveform_eq, Array.size_empty, Nat.zero_add, Nat.mul_div_cancel _ hbit]
  apply List.ext_getElem
  · rw [Waveform.slice, List.length_map, List.length_range, hcount]
  · intro k _ hk
    have hplace : 1 ≤ k * Waveform.fsk.samplesPerBit + pick k := by
      cases k with
      | zero => omega
      | succ k => rw [Nat.succ_mul]; omega
    have hperiod : (k * Waveform.fsk.samplesPerBit + pick k) / Waveform.fsk.samplesPerBit = k := by
      rw [Nat.mul_comm, Nat.mul_add_div hbit, Nat.div_eq_of_lt (hpick k), Nat.add_zero]
    have hsample := h.getElem?_pushBits hbit bits #[] (k * Waveform.fsk.samplesPerBit + pick k)
    rw [Array.size_empty, if_neg (Nat.not_lt_zero _), Nat.sub_zero, hperiod,
      List.getElem?_eq_getElem hk, Option.map_some] at hsample
    simp only [Waveform.slice, List.getElem_map, List.getElem_range]
    rw [Array.getD_eq_getD_getElem?, hsample, Option.getD_some]
    exact Waveform.decide_levelSample bits[k] _ hplace

end

end Modulator

end Downlink
