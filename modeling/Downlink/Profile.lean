import Downlink.Decimal.Fixed
import Downlink.Frame.Layout
import Downlink.Modulator
import Downlink.Power

/-!
# Transmit profiles

A profile fixes the shape of a frame on air: its layout, its sync word, its waveform and the mode
number in its header. The sizes follow from it before anything is sent.
-/

namespace Downlink

/-- Everything that fixes the shape of a frame on air. -/
structure Profile where
  layout : Layout
  sync : SyncWord
  waveform : Waveform
  modeId : UInt8

namespace Profile

/-- Short frames sent by frequency shift. -/
def fsk : Profile := { layout := .fsk, sync := .fsk, waveform := .fsk, modeId := 7 }

/-- Long frames sent by phase shift. -/
def bpsk : Profile := { layout := .bpsk, sync := .bpsk, waveform := .bpsk, modeId := 0 }

/-- The built-in profile of a modulation. -/
def ofModulation : Modulation → Profile
  | .fsk => fsk
  | .bpsk => bpsk

/-- Refuses a profile that cannot be sent. -/
def validate (p : Profile) : Except Error Unit := do
  p.layout.validate
  p.waveform.validate
  if p.sync.width = 0 ∨ 32 < p.sync.width then throw (.argument (.syncBits p.sync.width))
  if 7 < p.modeId.toNat then throw (.argument (.modeId p.modeId.toNat))

/-- Bits of a frame on air. -/
def frameBits (p : Profile) : Nat := p.sync.width + p.layout.symbolCount * 10

/-- Samples of a frame. -/
def frameSamples (p : Profile) : Nat := p.frameBits * p.waveform.samplesPerBit

/-- Nanoseconds of a number of seconds, to the nearest. Seconds have to be finite, not negative and
below `2 ^ 64`. -/
def nanoseconds? (seconds : Float) : Option Nat :=
  match Decimal.ofFloat seconds with
  | .finite negative significand exponent =>
    if negative ∧ significand ≠ 0 then none
    else
      let ns := Decimal.scaled 9 significand exponent
      if ns < twoTo 64 * tenTo 9 then some ns else none
  | _ => none

/-- Nanoseconds that a frame takes on air. A profile whose rates are zero has no air time. -/
def airTime? (p : Profile) : Option Nat :=
  if p.waveform.bitRate = 0 then none
  else nanoseconds? (p.frameSamples.toUInt64.toFloat / p.waveform.sampleRate.toFloat)

end Profile

end Downlink
