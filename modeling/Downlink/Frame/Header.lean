import Downlink.Frame.Layout
import Downlink.LittleEndian

/-!
# Frame headers

Four fields of 3, 16, 25 and 4 bits are packed without gaps from the least significant bit up and
sent as six bytes, the least significant in front. Uptime wraps at 25 bits; the other fields have to
fit.
-/

namespace Downlink

/-- What a frame says about itself. -/
structure Header where
  /-- Three bits that name the spacecraft and its mode. -/
  modeId : UInt8
  resetCount : UInt16
  /-- Seconds since the reset. -/
  uptime : UInt32
  /-- Four bits: realtime values or extremes. -/
  frameType : UInt8
  deriving DecidableEq, Repr

namespace Header

/-- The number of 48 bits that holds the fields. -/
def packed (h : Header) : Nat :=
  h.modeId.toNat + 0x8 * (h.resetCount.toNat +
    0x10000 * (h.uptime.toNat % 0x2000000 + 0x2000000 * h.frameType.toNat))

/-- Puts the marker of a layout into header bytes that reach that far. -/
def putMarker (marker : Option (Nat × UInt8)) (bytes : List UInt8) : List UInt8 :=
  match marker with
  | some (index, value) => bytes.set index value
  | none => bytes

/-- The header bytes for a layout: the packed fields, the marker, and zeros. -/
def encode (h : Header) (layout : Layout) : Except Error (List UInt8) :=
  if 7 < h.modeId.toNat then .error (.argument (.modeId h.modeId.toNat))
  else if 15 < h.frameType.toNat then .error (.argument (.frameType h.frameType.toNat))
  else
    .ok (putMarker layout.marker (LittleEndian.bytes packedHeaderBytes h.packed ++
      List.replicate (layout.headerLength - packedHeaderBytes) 0))

/-- The fields of a packed number. -/
def ofPacked (n : Nat) : Header :=
  { modeId := UInt8.ofNat (n % 0x8)
    resetCount := UInt16.ofNat (n / 0x8 % 0x10000)
    uptime := UInt32.ofNat (n / 0x80000 % 0x2000000)
    frameType := UInt8.ofNat (n / 0x100000000000 % 0x10) }

/-- Reads the fields from the front of header bytes. -/
def decode (bytes : List UInt8) : Except Error Header :=
  if bytes.length < packedHeaderBytes then
    .error (.argument (.shortHeader bytes.length packedHeaderBytes))
  else .ok (ofPacked (LittleEndian.value (bytes.take packedHeaderBytes)))

end Header

end Downlink
