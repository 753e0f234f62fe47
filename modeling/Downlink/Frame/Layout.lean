import Downlink.Parity

/-!
# Frame layouts

A layout says how one logical frame, a header and copies of a payload, is spread over the columns of
parallel sub-frames. Each sub-frame is the information part of one codeword. The grid of columns and
sub-frames has a slot for every logical byte; one slot may be skipped to make them come out even.
-/

namespace Downlink

/-- Bytes of the packed header fields. -/
def packedHeaderBytes : Nat := 6

/-- A place in the grid. -/
structure Slot where
  column : Nat
  subFrame : Nat
  deriving DecidableEq, Repr

/-- How a logical frame is spread over codewords. -/
structure Layout where
  /-- Header bytes, those behind the packed fields included. -/
  headerLength : Nat
  /-- Bytes of one payload copy. -/
  payloadLength : Nat
  /-- How often the payload is repeated. -/
  copies : Nat
  subFrames : Nat
  /-- Information bytes of each sub-frame. -/
  columns : Nat
  skipped : Option Slot
  /-- A fixed byte behind the packed header fields, with its index. -/
  marker : Option (Nat × UInt8)
  /-- Whether a flag symbol closes the frame. -/
  endFlag : Bool
  deriving DecidableEq, Repr

namespace Layout

/-- One short codeword: six header bytes and 58 payload bytes. -/
def fsk : Layout :=
  { headerLength := 6, payloadLength := 58, copies := 1, subFrames := 1, columns := 64
    skipped := none, marker := none, endFlag := false }

/-- Three codewords: eight header bytes and six copies of 78 payload bytes; the last slot of the
third codeword is skipped. -/
def bpsk : Layout :=
  { headerLength := 8, payloadLength := 78, copies := 6, subFrames := 3, columns := 159
    skipped := some ⟨158, 2⟩, marker := some (6, 99), endFlag := false }

/-- Bytes of the header and all payload copies. -/
def logicalLength (l : Layout) : Nat := l.headerLength + l.payloadLength * l.copies

/-- Parity bytes of all sub-frames. -/
def parityLength (l : Layout) : Nat := l.subFrames * parityBytes

/-- Line symbols of a frame, without the sync word. -/
def symbolCount (l : Layout) : Nat :=
  l.logicalLength + l.parityLength + if l.endFlag then 1 else 0

/-- Slots of the grid that are not skipped, as a number. -/
def slotCount (l : Layout) : Nat :=
  l.subFrames * l.columns - if l.skipped.isSome then 1 else 0

/-- The first thing in a layout that contradicts the rest, if there is one. -/
def fault? (l : Layout) : Option LayoutFault :=
  if l.subFrames = 0 ∨ l.columns = 0 then some .emptyGrid
  else if informationBytes < l.columns then some (.longSubFrame l.columns informationBytes)
  else if l.headerLength < packedHeaderBytes then some (.shortHeader packedHeaderBytes)
  else if l.payloadLength = 0 ∧ 0 < l.copies then some .emptyPayload
  else
    match l.skipped.filter fun s => l.columns ≤ s.column || l.subFrames ≤ s.subFrame with
    | some s => some (.skippedSlot s.column s.subFrame l.columns l.subFrames)
    | none =>
      match l.marker.filter fun m => m.1 < packedHeaderBytes || l.headerLength ≤ m.1 with
      | some m => some (.markerIndex m.1)
      | none =>
        if l.slotCount = l.logicalLength then none
        else some (.slotCount l.slotCount l.logicalLength)

/-- Refuses a layout that contradicts itself. -/
def validate (l : Layout) : Except Error Unit :=
  match l.fault? with
  | some fault => .error (.layout fault)
  | none => .ok ()

/-- The slots in the order in which logical bytes fill them, column by column. -/
def slots (l : Layout) : List Slot :=
  (List.range l.columns).flatMap fun column =>
    ((List.range l.subFrames).map (Slot.mk column)).filter fun slot => l.skipped != some slot

theorem validate_fsk : fsk.validate = .ok () := rfl
theorem validate_bpsk : bpsk.validate = .ok () := rfl

end Layout

end Downlink
