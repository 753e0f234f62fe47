import Downlink.Power

/-!
# Twelve-bit fields

Two fields share three bytes. The field in front has its low eight bits in the first byte and its
high four bits in the low half of the second; the field behind has its low four bits in the high
half of the second byte and its high eight bits in the third. Writing one leaves the other alone.
-/

namespace Downlink.PackedField

/-- The low twelve bits of a number, negative ones in two's complement. -/
def lowBits (value : Int32) : Nat := (value.toInt % 4096).toNat

theorem lowBits_lt (value : Int32) : lowBits value < 4096 := by
  have h := Int.emod_lt_of_pos value.toInt (by decide : (0 : Int) < 4096)
  simp only [lowBits]
  omega

/-- Writes a front field at index `k`. -/
def writeFront (buffer : List UInt8) (k : Nat) (value : Int32) : List UInt8 :=
  (buffer.set k (UInt8.ofNat (lowBits value % 256))).modify (k + 1) fun b =>
    UInt8.ofNat (b.toNat / 16 * 16 + lowBits value / 256)

/-- Writes a back field at index `k`. -/
def writeBack (buffer : List UInt8) (k : Nat) (value : Int32) : List UInt8 :=
  (buffer.modify k fun b => UInt8.ofNat (b.toNat % 16 + lowBits value % 16 * 16)).set (k + 1)
    (UInt8.ofNat (lowBits value / 16))

@[simp] theorem length_writeFront (buffer : List UInt8) (k : Nat) (value : Int32) :
    (writeFront buffer k value).length = buffer.length := by
  simp [writeFront]

@[simp] theorem length_writeBack (buffer : List UInt8) (k : Nat) (value : Int32) :
    (writeBack buffer k value).length = buffer.length := by
  simp [writeBack]

/-- The front field that the bytes `b` and `c` hold. -/
def front (b c : UInt8) : Nat := b.toNat + c.toNat % 16 * 256

/-- The back field that the bytes `b` and `c` hold. -/
def back (b c : UInt8) : Nat := b.toNat / 16 + c.toNat * 16

/-- Whether a field at index `k` lies inside a buffer. -/
def fits (buffer : List UInt8) (k : Nat) : Bool := k + 1 < buffer.length

/-- Writes a front field that lies inside the buffer. -/
def writeFront? (buffer : List UInt8) (k : Nat) (value : Int32) : Option (List UInt8) :=
  if fits buffer k then some (writeFront buffer k value) else none

/-- Writes a back field that lies inside the buffer. -/
def writeBack? (buffer : List UInt8) (k : Nat) (value : Int32) : Option (List UInt8) :=
  if fits buffer k then some (writeBack buffer k value) else none

/-- Reads a front field that lies inside the buffer. -/
def readFront? (buffer : List UInt8) (k : Nat) : Option Nat := do
  let b ← buffer[k]?
  let c ← buffer[k + 1]?
  return front b c

/-- Reads a back field that lies inside the buffer. -/
def readBack? (buffer : List UInt8) (k : Nat) : Option Nat := do
  let b ← buffer[k]?
  let c ← buffer[k + 1]?
  return back b c

/-- Reads the low `bits` bits of a field as two's complement, the top one of them as the sign. -/
def signed (bits value : Nat) : Int :=
  if value.testBit (bits - 1) then (value : Int) - (twoTo bits : Nat) else value

end Downlink.PackedField
