import Downlink.Error
import Downlink.Truncation

/-!
# Waveforms

A waveform fixes how a bit stream sounds: how many samples a bit takes, which carrier is used and
how loud it is. Edges are softened over half a carrier period. Frequency-shift frames switch a level
by bit value; phase-shift frames keep a carrier running and turn its phase at every zero bit.
-/

namespace Downlink

/-- The sample rate of all built-in waveforms. -/
def audioRate : UInt32 := 48000

/-- How bits are shown: by a level, or by the phase of a carrier. -/
inductive Modulation where
  | fsk
  | bpsk
  deriving DecidableEq, Repr

/-- The sign of the level, or the phase of the carrier. -/
inductive Polarity where
  | plus
  | minus
  deriving DecidableEq, Repr

namespace Polarity

def flip : Polarity → Polarity
  | plus => minus
  | minus => plus

/-- The polarity that shows a bit value. -/
def ofBit (bit : Bool) : Polarity := if bit then plus else minus

def sign : Polarity → Int
  | plus => 1
  | minus => -1

def factor : Polarity → Float32
  | plus => 1.0
  | minus => -1.0

@[simp] theorem flip_flip (p : Polarity) : p.flip.flip = p := by cases p <;> rfl

end Polarity

/-- How bits become samples. -/
structure Waveform where
  modulation : Modulation
  sampleRate : UInt32
  bitRate : UInt32
  /-- The carrier in hertz; it also sizes the edges. -/
  carrier : Float32
  /-- The largest sample. -/
  amplitude : Float32

namespace Waveform

/-- The carrier of the built-in waveforms. -/
def carrierHz : Float32 := 3000.0

/-- A level switched 200 times a second, at a third of full scale. -/
def fsk : Waveform :=
  { modulation := .fsk, sampleRate := audioRate, bitRate := 200, carrier := carrierHz
    amplitude := 32767.0 / 3.0 }

/-- A carrier turned up to 1200 times a second, at full scale. -/
def bpsk : Waveform :=
  { modulation := .bpsk, sampleRate := audioRate, bitRate := 1200, carrier := carrierHz
    amplitude := 32767.0 }

/-- Samples of one bit. -/
def samplesPerBit (w : Waveform) : Nat := w.sampleRate.toNat / w.bitRate.toNat

/-- Samples of an edge: half a carrier period. -/
def ramp (w : Waveform) : Nat :=
  Truncation.count32 (w.sampleRate.toFloat32 / (2.0 * w.carrier))

/-- The first value of a waveform that is out of its range, if there is one. -/
def fault? (w : Waveform) : Option ArgumentFault :=
  if w.bitRate = 0 ∨ w.sampleRate.toNat % w.bitRate.toNat ≠ 0 then
    some (.bitRate w.bitRate.toNat w.sampleRate.toNat)
  else if ¬(0 < w.carrier ∧ w.carrier < w.sampleRate.toFloat32 / 2.0) then
    some (.carrier w.carrier w.sampleRate.toNat)
  else if w.ramp = 0 then some .noRamp
  else if ¬(0 < w.amplitude ∧ w.amplitude ≤ 32767.0) then some (.amplitude w.amplitude)
  else none

/-- Refuses a waveform that cannot be sent. -/
def validate (w : Waveform) : Except Error Unit :=
  match w.fault? with
  | some fault => .error (.argument fault)
  | none => .ok ()

/-! ### Samples -/

/-- The level of frequency-shift samples, as a part of the amplitude. -/
def levelGain : Float32 := 0.25

/-- The gain beside a phase reversal. -/
def reversalGain : Float32 := 0.4

/-- A count as a 32-bit float. -/
def real32 (n : Nat) : Float32 := n.toUInt64.toFloat32

/-- The part of a carrier period that has passed at a clock tick. -/
def turn (w : Waveform) (clock : Nat) : Float :=
  let t := clock.toUInt64.toFloat * w.carrier.toFloat / w.sampleRate.toFloat
  t - t.toUInt64.toFloat

/-- Half the circumference of the unit circle. -/
def pi : Float := 3.14159265358979323846

/-- The carrier at a clock tick. -/
def carrierAt (w : Waveform) (clock : Nat) : Float32 := (2.0 * pi * w.turn clock).sin.toFloat32

/-- The level of a frequency-shift sample, `since` samples into the edge. -/
def levelAt (w : Waveform) (polarity : Polarity) (since : Nat) : Float32 :=
  let level := levelGain * w.amplitude * polarity.factor
  if since < w.ramp then level * real32 since / real32 w.ramp else level

/-- The level of a phase-shift sample, `since` samples behind a reversal. -/
def waveAt (w : Waveform) (polarity : Polarity) (clock since : Nat) : Float32 :=
  let gain := if since < w.ramp then reversalGain else 1.0
  w.amplitude * gain * polarity.factor * w.carrierAt clock

/-- One sample, at a clock tick and `since` samples behind the last edge. -/
def sampleAt (w : Waveform) (polarity : Polarity) (clock since : Nat) : Int16 :=
  Truncation.sample32 <|
    match w.modulation with
    | .fsk => w.levelAt polarity since
    | .bpsk => w.waveAt polarity clock since

/-- A sample `back` places before a reversal, faded toward it. -/
def faded (w : Waveform) (back : Nat) (sample : Int16) : Int16 :=
  let gain := reversalGain * real32 (back - 1) / real32 w.ramp
  let value :=
    if sample < 0 then -(-sample).toUInt16.toFloat32 else sample.toUInt16.toFloat32
  Truncation.sample32 (value * gain)

end Waveform

end Downlink
