import Downlink.Frame.Layout

/-!
# Interleaved frames

The logical bytes of a frame, the header and then the payload over and over, fill the slots of a
layout in order. Each byte is fed to the codeword of its sub-frame as it is placed. Parity is sent
behind the bytes, the first parity byte of every sub-frame, then the second, and so on, so that a
burst of errors is spread over the codewords.
-/

namespace Downlink

/-- A frame after interleaving. -/
structure InterleavedFrame where
  /-- The logical bytes in the order in which they were placed. -/
  written : List UInt8
  /-- The parity of each sub-frame. -/
  parity : List Parity
  deriving DecidableEq, Repr

namespace InterleavedFrame

/-- The parity bytes in the order of sending. -/
def parityInterleaved (f : InterleavedFrame) : List UInt8 :=
  (List.range parityBytes).flatMap fun i => f.parity.map fun p => p.getD i 0

/-- The bytes of the frame in the order of sending. -/
def bytes (f : InterleavedFrame) : List UInt8 := f.written ++ f.parityInterleaved

theorem length_parityInterleaved (f : InterleavedFrame) :
    f.parityInterleaved.length = parityBytes * f.parity.length := by
  simp [parityInterleaved, List.length_flatMap, List.map_const']

theorem length_bytes (f : InterleavedFrame) :
    f.bytes.length = f.written.length + parityBytes * f.parity.length := by
  rw [bytes, List.length_append, length_parityInterleaved]

end InterleavedFrame

namespace Layout

/-- The byte for the `i`-th slot: the header in front, then the payload over and over. -/
def logicalByte? (l : Layout) (header payload : List UInt8) (i : Nat) : Option UInt8 :=
  if i < l.headerLength then header[i]?
  else payload[(i - l.headerLength) % l.payloadLength]?

/-- Feeds a byte to one of the registers. -/
def feedRegister (registers : List ParityRegister) (subFrame : Nat) (byte : UInt8) :
    Except Error (List ParityRegister) :=
  match registers[subFrame]? with
  | none => .error (.layout .emptyGrid)
  | some r => do return registers.set subFrame (← r.feed byte)

/-- Fills slots from the `i`-th on. A slot for which no byte is left is one too many. -/
def fill (l : Layout) (header payload : List UInt8) (i : Nat) (registers : List ParityRegister) :
    List Slot → Except Error InterleavedFrame
  | [] => .ok ⟨[], registers.map ParityRegister.parity⟩
  | slot :: rest =>
    match l.logicalByte? header payload i with
    | none => .error (.layout (.slotCount l.slotCount l.logicalLength))
    | some byte => do
      let registers ← feedRegister registers slot.subFrame byte
      let frame ← l.fill header payload (i + 1) registers rest
      return { frame with written := byte :: frame.written }

/-- Spreads a header and a payload over the sub-frames of a layout. -/
def interleave (l : Layout) (header payload : List UInt8) : Except Error InterleavedFrame := do
  l.validate
  if header.length ≠ l.headerLength then
    throw (.argument (.headerLength header.length l.headerLength))
  if payload.length ≠ l.payloadLength then
    throw (.argument (.payloadLength payload.length l.payloadLength))
  l.fill header payload 0 (List.replicate l.subFrames .empty) l.slots

end Layout

end Downlink
