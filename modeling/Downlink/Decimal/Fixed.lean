import Downlink.Decimal.Binary
import Downlink.Power

/-!
# Decimals with a fixed number of places

The exact value is rounded to the last place, a half going to the even neighbour. Padding fills to
the left: blanks before the sign, zeros after it.
-/

namespace Downlink.Decimal

/-- The quotient rounded to the nearest integer, a half going to the even one. -/
def roundDiv (num den : Nat) : Nat :=
  let q := num / den
  let r := num % den
  if 2 * r < den then q
  else if den < 2 * r then q + 1
  else q + q % 2

/-- The value in units of the last place. -/
def scaled (places significand : Nat) (exponent : Int) : Nat :=
  roundDiv (significand * tenTo places * twoTo exponent.toNat) (twoTo (-exponent).toNat)

/-- Writes a number of units of the last place. -/
def pointed (places units : Nat) : String :=
  if places = 0 then toString units
  else
    let fraction := toString (units % tenTo places)
    toString (units / tenTo places) ++ "." ++
      String.ofList (List.replicate (places - fraction.length) '0') ++ fraction

/-- The sign of a text and the text behind it. -/
def Value.fixedParts (places : Nat) : Value → String × String
  | .notANumber => ("", "NaN")
  | .infinite negative => (if negative then "-" else "", "inf")
  | .finite negative significand exponent =>
    (if negative then "-" else "", pointed places (scaled places significand exponent))

/-- The text with the given number of places. -/
def Value.fixed (places : Nat) (v : Value) : String :=
  (v.fixedParts places).1 ++ (v.fixedParts places).2

/-- Fills with blanks on the left up to a width. -/
def padBlanks (width : Nat) (text : String) : String :=
  String.ofList (List.replicate (width - text.length) ' ') ++ text

/-- The text with the given number of places, right-aligned in blanks. -/
def Value.fixedPadded (width places : Nat) (v : Value) : String :=
  padBlanks width (v.fixed places)

/-- The text with the given number of places, filled with zeros behind the sign. -/
def Value.fixedZeros (width places : Nat) (v : Value) : String :=
  let (sign, digits) := v.fixedParts places
  sign ++ String.ofList (List.replicate (width - sign.length - digits.length) '0') ++ digits

example : roundDiv 5 2 = 2 ∧ roundDiv 7 2 = 4 ∧ roundDiv 8 3 = 3 := by decide

end Downlink.Decimal
