import Downlink.Decimal.Scientific
import Downlink.Tool.Numeral

/-!
# Directives of a format

A directive says how one argument is written: what it is read as, the least width and the number of
places, and flags for the sign, the side and the kind of the padding.
-/

namespace Downlink.Tool

/-- How an argument is written. -/
structure Directive where
  flags : Raw
  /-- Whether the padding goes to the right. -/
  left : Bool
  width : Nat
  /-- Digits behind the point, digits of an integer at least, or characters of a text at most. -/
  places : Option Nat
  conversion : Char
  deriving DecidableEq, Repr

namespace Directive

/-- Whether a flag was given. -/
def has (d : Directive) (flag : Char) : Bool := d.flags.contains flag

/-- Fills up to the width, with zeros behind what leads if the padding is `zeros`. -/
def pad (d : Directive) (zeros : Bool) (lead body : Raw) : Raw :=
  let fill := d.width - (lead.length + body.length)
  if d.left then lead ++ body ++ List.replicate fill ' '
  else if zeros then lead ++ List.replicate fill '0' ++ body
  else List.replicate fill ' ' ++ lead ++ body

/-- The sign that is written before a number. -/
def sign (d : Directive) (negative : Bool) : Raw :=
  if negative then ['-'] else if d.has '+' then ['+'] else if d.has ' ' then [' '] else []

/-- A text, cut off behind its places. -/
def text (d : Directive) (raw : Raw) : Raw := d.pad false [] (raw.take (d.places.getD raw.length))

/-- The digits of a size; nothing stands for zero when no digits are asked for. -/
def digits (d : Directive) (base n : Nat) : Raw :=
  if n = 0 ∧ d.places = some 0 then [] else (Decimal.digitsIn base (d.places.getD 1) n).toList

/-- Whether zeros fill an integer up. -/
def zeroFilled (d : Directive) : Bool := d.has '0' && d.places.isNone

/-- A signed integer. -/
def integer (d : Directive) (n : Int) : Raw :=
  d.pad d.zeroFilled (d.sign (decide (n < 0))) (d.digits 10 n.natAbs)

/-- A number of 64 bits in the base that the conversion names. -/
def word (d : Directive) (n : Nat) : Raw :=
  let base := if d.conversion = 'o' then 8 else if d.conversion = 'u' then 10 else 16
  let body := d.digits base n
  let lead := if base = 16 ∧ d.has '#' ∧ n ≠ 0 then ['0', 'x'] else []
  let body := if base = 8 ∧ d.has '#' ∧ body.head? ≠ some '0' then '0' :: body else body
  let out := d.pad d.zeroFilled lead body
  if d.conversion = 'X' then out.map Char.toUpper else out

/-- The text of a finite size. -/
def finite (d : Directive) (p : Decimal.Precision) (significand : Nat) (exponent : Int) : String :=
  match d.conversion.toLower with
  | 'f' => Decimal.fixedText (d.places.getD 6) (d.has '#') significand exponent
  | 'e' => Decimal.scientificText 'e' (d.places.getD 6) (d.has '#') significand exponent
  | 'g' => Decimal.generalText 'e' (d.places.getD 6) (d.has '#') significand exponent
  | _ =>
    -- a stored leading bit makes the first digit a full one
    let lead := if p.bits % 4 = 0 then 4 else 1
    Decimal.hexadecimalText p.bits lead p.least d.places (d.has '#') significand exponent

/-- A number with a point. -/
def real (d : Directive) (p : Decimal.Precision) (x : Numeral.Signed) : Raw :=
  let out := match x.size with
    | .notANumber => d.pad false (d.sign x.negative) "nan".toList
    | .infinite _ => d.pad false (d.sign x.negative) "inf".toList
    | .finite _ significand exponent =>
      match (d.finite p significand exponent).toList with
      | '0' :: 'x' :: body => d.pad (d.has '0') (d.sign x.negative ++ ['0', 'x']) body
      | body => d.pad (d.has '0') (d.sign x.negative) body
  if d.conversion.isUpper then out.map Char.toUpper else out

example : (⟨"+".toList, false, 8, some 3, 'd'⟩ : Directive).integer 5 = "    +005".toList := by
  decide +kernel

end Directive

end Downlink.Tool
