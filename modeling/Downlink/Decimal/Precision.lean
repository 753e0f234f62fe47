import Downlink.Decimal.Binary
import Downlink.Decimal.Fixed
import Downlink.Power

/-!
# Rounding to a binary precision

A ratio is rounded to the nearest value that has a given number of significant bits and an exponent
in a given range, a half going to the even neighbour. What is too large is infinite.
-/

namespace Downlink.Decimal

/-- A range of binary floating-point values. -/
structure Precision where
  /-- Bits of the significand, all of them counted. -/
  bits : Nat
  /-- The exponents of the last bit of the least and of the greatest values. -/
  least : Int
  greatest : Int

/-- The 64-bit format. -/
def double : Precision := ⟨53, -1074, 971⟩

/-- The format of 80 bits, whose leading bit is stored. -/
def extended : Precision := ⟨64, -16445, 16320⟩

namespace Precision

/-- The exponent whose multiples a positive ratio is rounded to. -/
def exponentFor (p : Precision) (num den : Nat) : Int :=
  let guess := (Nat.log2 num : Int) - Nat.log2 den - p.bits
  let guess := if num * twoTo (-guess).toNat < twoTo p.bits * den * twoTo guess.toNat then guess
    else guess + 1
  max p.least guess

/-- The ratio in units of the power of two with an exponent. -/
def units (num den : Nat) (exponent : Int) : Nat × Nat :=
  (num * twoTo (-exponent).toNat, den * twoTo exponent.toNat)

/-- The nearest value, and whether it lies outside the range: infinite, or so small that bits of a
significand are missing. -/
def round (p : Precision) (negative : Bool) (num den : Nat) : Value × Bool :=
  if num = 0 then (.finite negative 0 0, false)
  else
    let e := p.exponentFor num den
    let (n, d) := units num den e
    let m := roundDiv n d
    let (m, e) := if m = twoTo p.bits then (m / 2, e + 1) else (m, e)
    if p.greatest < e then (.infinite negative, true)
    else (.finite negative m e, m < twoTo (p.bits - 1) && n % d != 0)

end Precision

example : double.round false 1 10 = (.finite false 0x1999999999999A (-56), false) := by decide
example : (double.round false 1 (tenTo 330)).2 = true := by decide +kernel

end Downlink.Decimal
