import Downlink.Waveform

/-!
# Frame kinds and health

A frame carries present values or extremes, and says which. Health flags and the state of the
antennas are packed into two of its fields.
-/

namespace Downlink

/-- Which values a frame carries. -/
inductive FrameKind where
  | realtime
  | greatest
  | least
  deriving DecidableEq, Repr

namespace FrameKind

/-- The number of a kind in the header. -/
def code : FrameKind → UInt8
  | realtime => 1
  | greatest => 2
  | least => 3

/-- The kind of the `n`-th frame of a session, counted from one. Every eighth frequency-shift frame
carries the least values, and the one half way between carries the greatest. -/
def ofNumber (modulation : Modulation) (n : Nat) : FrameKind :=
  match modulation with
  | .bpsk => realtime
  | .fsk => if n % 8 = 0 then least else if (n + 4) % 8 = 0 then greatest else realtime

end FrameKind

/-- Health flags of the spacecraft. -/
structure Health where
  stemBoardFailure : Bool
  normalModeFailure : Bool
  payloadFailure1 : Bool
  payloadFailure2 : Bool
  bus0Off : Bool
  bus1Off : Bool
  bus3Off : Bool
  cameraOff : Bool
  /-- Ground commands received, of which four bits are sent. -/
  groundCommands : UInt8
  deriving DecidableEq, Repr

namespace Health

/-- The health before the first poll. -/
def initial : Health :=
  { stemBoardFailure := true, normalModeFailure := false
    payloadFailure1 := false, payloadFailure2 := false
    bus0Off := true, bus1Off := true, bus3Off := true, cameraOff := true
    groundCommands := 0 }

/-- The flags from the least significant bit up. -/
def flags (h : Health) : List Bool :=
  [h.stemBoardFailure, h.normalModeFailure, h.payloadFailure1, h.payloadFailure2,
    h.bus0Off, h.bus1Off, h.bus3Off, h.cameraOff]

/-- The number with given bits, the least significant first. -/
def ofBits (bits : List Bool) : Nat := bits.foldr (fun b n => b.toNat + 2 * n) 0

/-- The field that holds the flags and the ground commands. -/
def word (h : Health) : Nat := ofBits h.flags + h.groundCommands.toNat % 16 * 256

end Health

/-- Which antennas are out. -/
structure Antennas where
  receive : Bool
  transmit : Bool
  deriving DecidableEq, Repr

namespace Antennas

/-- Both antennas stowed. -/
def stowed : Antennas := ⟨false, false⟩

/-- The field that holds the antennas. -/
def word (a : Antennas) : Nat := a.receive.toNat + 2 * a.transmit.toNat

end Antennas

end Downlink
