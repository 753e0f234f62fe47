import Downlink.Decimal.Fixed
import Downlink.Power

/-!
# Decimals with an exponent

A positive value is written with one digit before the point and a power of ten, rounded to its last
digit with a half going to the even neighbour. The general form writes a value with or without an
exponent, whichever suits its size. The hexadecimal form writes the bits as they are.
-/

namespace Downlink.Decimal

/-- A value `significand * 2 ^ exponent` rounded to a multiple of `10 ^ power`, in those units. -/
def inTens (significand : Nat) (exponent power : Int) : Nat :=
  roundDiv (significand * twoTo exponent.toNat * tenTo (-power).toNat)
    (twoTo (-exponent).toNat * tenTo power.toNat)

/-- The power of ten of the leading digit of a positive value. -/
def leadingPower (significand : Nat) (exponent : Int) : Int :=
  let num := significand * twoTo exponent.toNat
  let den := twoTo (-exponent).toNat
  if den ≤ num then (toString (num / den)).length - 1
  else -((toString ((den - 1) / num)).length : Int)

/-- The leading digits of a value, `places` of them behind the first, and the power of ten of the
first. -/
def leadingDigits (places significand : Nat) (exponent : Int) : Nat × Int :=
  if significand = 0 then (0, 0)
  else
    let power := leadingPower significand exponent
    let digits := inTens significand exponent (power - places)
    if tenTo (places + 1) ≤ digits then (digits / 10, power + 1) else (digits, power)

/-- A power of ten with its sign and at least two digits. -/
def powerText (mark : Char) (power : Int) : String :=
  let digits := toString power.natAbs
  String.singleton mark ++ (if power < 0 then "-" else "+") ++
    (if digits.length < 2 then "0" else "") ++ digits

/-- A text without the zeros at the end of its fraction, and without the point when no fraction is
left. -/
def trimFraction (text : String) : String :=
  if text.toList.contains '.' then
    let rest := text.toList.reverse.dropWhile (· == '0')
    String.ofList (match rest with
      | '.' :: rest => rest.reverse
      | rest => rest.reverse)
  else text

/-- A text with a point in any case. -/
def withPoint (text : String) : String := if text.toList.contains '.' then text else text ++ "."

/-- The form without an exponent. A point without digits behind it is written when `pointed`. -/
def fixedText (places : Nat) (point : Bool) (significand : Nat) (exponent : Int) : String :=
  let text := pointed places (scaled places significand exponent)
  if point then withPoint text else text

/-- The form with an exponent, behind a mark. -/
def scientificText (mark : Char) (places : Nat) (point : Bool) (significand : Nat)
    (exponent : Int) : String :=
  let (digits, power) := leadingDigits places significand exponent
  let text := pointed places digits
  (if point then withPoint text else text) ++ powerText mark power

/-- The general form with a number of significant digits: without an exponent unless the leading
digit is too far to the left or more than four places behind the point. Zeros at the end are written
when `full`. -/
def generalText (mark : Char) (digits : Nat) (full : Bool) (significand : Nat)
    (exponent : Int) : String :=
  let digits := max digits 1
  let (leading, power) := leadingDigits (digits - 1) significand exponent
  let trim := fun text => if full then withPoint text else trimFraction text
  if -4 ≤ power ∧ power < digits then
    trim (pointed ((digits : Int) - 1 - power).toNat
      (scaled ((digits : Int) - 1 - power).toNat significand exponent))
  else trim (pointed (digits - 1) leading) ++ powerText mark power

/-! ### Hexadecimal -/

/-- Digits of a base of at most sixteen, at least `width` of them. -/
def digitsIn (base width n : Nat) : String :=
  let text := Nat.toDigits base n
  String.ofList (List.replicate (width - text.length) '0' ++ text)

/-- The hexadecimal form of a value whose significand has `bits` bits, the first `lead` of them
before the point; digits that are not needed are left out unless their number is given. -/
def hexadecimalText (bits lead : Nat) (least : Int) (places : Option Nat) (point : Bool)
    (significand : Nat) (exponent : Int) : String :=
  let all := (bits - lead) / 4
  -- a value with leading zeros is shifted up as far as the exponents reach
  let shift := if significand = 0 then 0
    else min (bits - 1 - Nat.log2 significand) (exponent - least).toNat
  let significand := significand * twoTo shift
  let exponent := exponent - shift
  let kept := min (places.getD all) all
  let rounded := roundDiv significand (twoTo (4 * (all - kept)))
  let power := if significand = 0 then 0 else exponent + 4 * all
  let whole := rounded / twoTo (4 * kept)
  -- a digit that rounding carries out of the first one makes it one
  let (whole, power) := if 16 ≤ whole then (1, power + 4) else (whole, power)
  let fraction := (digitsIn 16 kept (rounded % twoTo (4 * kept))).toList.take kept
  let fraction := match places with
    | some n => fraction ++ List.replicate (n - kept) '0'
    | none => (fraction.reverse.dropWhile (· == '0')).reverse
  "0x" ++ digitsIn 16 1 whole ++
    (if fraction.isEmpty then (if point then "." else "") else "." ++ String.ofList fraction) ++
    "p" ++ (if power < 0 then "-" else "+") ++ toString power.natAbs

example : scientificText 'e' 6 false 3 (-1) = "1.500000e+00" := by decide +kernel
example : generalText 'e' 6 false 1 20 = "1.04858e+06" := by decide +kernel
example : hexadecimalText 53 1 (-1074) none false (twoTo 52) (-52) = "0x1p+0" := by
  decide +kernel

end Downlink.Decimal
