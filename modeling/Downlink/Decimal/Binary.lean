import Downlink.Power

/-!
# Binary floating-point values

A float is read as sign, significand and exponent, so that its decimal texts are computed on exact
integers. The two formats differ in their field widths only.
-/

namespace Downlink.Decimal

/-- The widths of an interchange format. -/
structure Format where
  /-- Stored bits of the significand. -/
  significandBits : Nat
  exponentBits : Nat

/-- The 64-bit format. -/
def binary64 : Format := ⟨52, 11⟩

/-- The 32-bit format. -/
def binary32 : Format := ⟨23, 8⟩

/-- What a float stands for. A finite value is `significand * 2 ^ exponent`. -/
inductive Value where
  | notANumber
  | infinite (negative : Bool)
  | finite (negative : Bool) (significand : Nat) (exponent : Int)
  deriving DecidableEq, Repr

/-- The exponent of the least positive value, which values without a leading bit share. -/
def Format.leastExponent (f : Format) : Int :=
  2 - (twoTo (f.exponentBits - 1) : Nat) - f.significandBits

/-- Reads the bit pattern of a format. -/
def Format.value (f : Format) (bits : Nat) : Value :=
  let negative := bits.testBit (f.significandBits + f.exponentBits)
  let biased := bits / twoTo f.significandBits % twoTo f.exponentBits
  let fraction := bits % twoTo f.significandBits
  if biased = twoTo f.exponentBits - 1 then
    if fraction = 0 then .infinite negative else .notANumber
  else if biased = 0 then .finite negative fraction f.leastExponent
  else .finite negative (twoTo f.significandBits + fraction) (f.leastExponent + (biased - 1 : Nat))

/-- Whether the next smaller value is only half as far away as the next larger one. -/
def Format.narrowBelow (f : Format) (significand : Nat) (exponent : Int) : Bool :=
  significand == twoTo f.significandBits && f.leastExponent < exponent

/-- What a 64-bit float stands for. -/
def ofFloat (x : Float) : Value := binary64.value x.toBits.toNat

/-- What a 32-bit float stands for. -/
def ofFloat32 (x : Float32) : Value := binary32.value x.toBits.toNat

example : binary64.value 0x3FF8000000000000 = .finite false (3 * twoTo 51) (-52) := by decide
example : binary32.value 0x80000001 = .finite true 1 (-149) := by decide
example : binary32.value 0x7F800000 = .infinite false := by decide

end Downlink.Decimal
