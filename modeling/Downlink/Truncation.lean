import Downlink.Power

/-!
# From floats to integers

A float becomes an integer by dropping its fraction. What lies beyond the range of the integer
becomes the nearest end of the range, and what is not a number becomes zero.
-/

namespace Downlink.Truncation

/-- The integer of `bits` bits for a magnitude that is already whole. -/
def clamped (bits : Nat) (negative : Bool) (magnitude : Nat) : Int :=
  if negative then -(min magnitude (twoTo (bits - 1)) : Nat)
  else (min magnitude (twoTo (bits - 1) - 1) : Nat)

/-- A 32-bit float as a signed integer of at most 64 bits. -/
def signed32 (bits : Nat) (x : Float32) : Int :=
  if x < 0 then clamped bits true (-x).toUInt64.toNat else clamped bits false x.toUInt64.toNat

/-- A 64-bit float as a signed integer of at most 64 bits. -/
def signed64 (bits : Nat) (x : Float) : Int :=
  if x < 0 then clamped bits true (-x).toUInt64.toNat else clamped bits false x.toUInt64.toNat

/-- A 32-bit float as a count. -/
def count32 (x : Float32) : Nat := x.toUInt64.toNat

/-- A 64-bit float as a count. -/
def count64 (x : Float) : Nat := x.toUInt64.toNat

/-- A 32-bit float as a sample. -/
def sample32 (x : Float32) : Int16 := Int16.ofInt (signed32 16 x)

/-- A 64-bit float as a sample. -/
def sample64 (x : Float) : Int16 := Int16.ofInt (signed64 16 x)

/-- A 32-bit float as a telemetry number. -/
def number32 (x : Float32) : Int32 := Int32.ofInt (signed32 32 x)

end Downlink.Truncation
