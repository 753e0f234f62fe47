import Downlink.Error
import Downlink.Morse
import Downlink.Truncation
import Downlink.Waveform

/-!
# Keyed tones

A keyer turns the runs of a key into samples: a tone while the key is held and silence while it is
left. The tone swells and fades over a short edge, at most half a unit, to avoid clicks. The tone's
phase runs on through the silence.
-/

namespace Downlink

/-- How Morse code sounds. -/
structure Keyer where
  wordsPerMinute : Nat
  /-- The tone in hertz. -/
  tone : Float
  amplitude : Float

namespace Keyer

/-- The samples of a second, as a float. -/
def rate : Float := audioRate.toFloat

/-- The largest sample, as a float. -/
def fullScale : Float := 32767.0

/-- Twenty words a minute at half of full scale. -/
def standard : Keyer := { wordsPerMinute := 20, tone := 800.0, amplitude := fullScale / 2.0 }

/-- An amplitude brought into the range of samples. -/
def clampAmplitude (x : Float) : Float :=
  if x < 0.0 then 0.0 else if fullScale < x then fullScale else x

/-- A keyer with a positive speed and an audible tone. -/
def ofSettings (wordsPerMinute : Nat) (tone amplitude : Float) : Except Error Keyer :=
  if wordsPerMinute = 0 ∨ ¬(0.0 < tone ∧ tone < rate / 2.0) then
    .error (.argument (.keying wordsPerMinute tone))
  else .ok { wordsPerMinute, tone, amplitude := clampAmplitude amplitude }

/-- A count as a 64-bit float. -/
def real64 (n : Nat) : Float := n.toUInt64.toFloat

/-- Samples of a unit. -/
def unit (k : Keyer) : Nat := Truncation.count64 (rate * 1.2 / real64 k.wordsPerMinute)

/-- Samples of an edge. -/
def edge (k : Keyer) : Nat := max 1 (min (Truncation.count64 (rate * 0.005)) (k.unit / 2))

/-- The part of the amplitude at place `i` of `length` samples of tone. -/
def envelope (edge length i : Nat) : Float :=
  if i < edge then real64 i / real64 edge
  else if length - i ≤ edge then real64 (length - i - 1) / real64 edge
  else 1.0

/-- The angle that the tone advances in a sample. -/
def step (k : Keyer) : Float := 2.0 * Waveform.pi * k.tone / rate

/-- A sample of tone, at place `i` of `length` and at `place` of the whole message. -/
def sample (k : Keyer) (edge length i place : Nat) : Int16 :=
  Truncation.sample64 (k.amplitude * envelope edge length i * (k.step * real64 place).sin)

/-- Adds the last `n` of `length` samples of tone. -/
def addTone (k : Keyer) (edge length : Nat) : Nat → Array Int16 → Array Int16
  | 0, out => out
  | n + 1, out =>
    addTone k edge length n (out.push (k.sample edge length (length - (n + 1)) out.size))

/-- Adds `n` samples of silence. -/
def addSilence : Nat → Array Int16 → Array Int16
  | 0, out => out
  | n + 1, out => addSilence n (out.push 0)

/-- Adds the samples of a run. -/
def addRun (k : Keyer) (out : Array Int16) (r : Morse.KeyRun) : Array Int16 :=
  let length := r.units * k.unit
  if r.down then k.addTone k.edge length length out else addSilence length out

/-- The samples that spell a text. -/
def key (k : Keyer) (text : String) : Array Int16 := (Morse.keyRuns text).foldl k.addRun #[]

@[simp] theorem size_addTone (k : Keyer) (edge length n : Nat) (out : Array Int16) :
    (k.addTone edge length n out).size = out.size + n := by
  induction n generalizing out with
  | zero => rfl
  | succ n ih => simp [addTone, ih]; omega

@[simp] theorem size_addSilence (n : Nat) (out : Array Int16) :
    (addSilence n out).size = out.size + n := by
  induction n generalizing out with
  | zero => rfl
  | succ n ih => simp [addSilence, ih]; omega

end Keyer

end Downlink
