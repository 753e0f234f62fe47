/-!
# Reading decimals

A number is an optional sign before a word for infinity or for no number, in any case, or before
digits with at most one point, at least one digit, and an optional exponent. What it stands for is
rounded to the nearest float, so long digit strings and large exponents read exactly.
-/

namespace Downlink.Decimal

/-- The magnitude of a decimal text. -/
inductive Magnitude where
  | notANumber
  | infinite
  /-- The value `digits * 10 ^ power`. -/
  | finite (digits : Nat) (power : Int)
  deriving DecidableEq, Repr

/-- A decimal text that has been read. -/
structure Literal where
  negative : Bool
  magnitude : Magnitude
  deriving DecidableEq, Repr

/-- The value of a string of digits, continuing from `acc`. -/
def digitsValue (acc : Nat) (digits : List Char) : Nat :=
  digits.foldl (fun n c => n * 10 + (c.toNat - '0'.toNat)) acc

/-- Splits an optional sign off a text. -/
def splitSign : List Char → Bool × List Char
  | '-' :: rest => (true, rest)
  | '+' :: rest => (false, rest)
  | text => (false, text)

/-- The exponent that a text ends with, zero when the text is empty. -/
def exponent? : List Char → Option Int
  | [] => some 0
  | c :: rest =>
    if c = 'e' ∨ c = 'E' then
      let (negative, digits) := splitSign rest
      if digits.isEmpty || !digits.all Char.isDigit then none
      else
        let n : Int := digitsValue 0 digits
        some (if negative then -n else n)
    else none

/-- The magnitude of digits with an optional point and exponent. -/
def digits? (text : List Char) : Option Magnitude :=
  let whole := text.takeWhile Char.isDigit
  let rest := text.dropWhile Char.isDigit
  let (fraction, rest) := match rest with
    | '.' :: rest => (rest.takeWhile Char.isDigit, rest.dropWhile Char.isDigit)
    | rest => ([], rest)
  if whole.isEmpty && fraction.isEmpty then none
  else (exponent? rest).map fun e =>
    .finite (digitsValue (digitsValue 0 whole) fraction) (e - fraction.length)

/-- The magnitude of a text without its sign. -/
def magnitude? (text : List Char) : Option Magnitude :=
  let lower := text.map Char.toLower
  if lower = "inf".toList || lower = "infinity".toList then some .infinite
  else if lower = "nan".toList then some .notANumber
  else digits? text

/-- Reads a decimal text; the whole text has to be a number. -/
def Literal.ofChars? (text : List Char) : Option Literal :=
  let (negative, rest) := splitSign text
  (magnitude? rest).map fun magnitude => ⟨negative, magnitude⟩

/-- Powers of ten beyond which every format reads zero or infinity. -/
def decimalRange : Int := 400

/-- The position of the first digit before the point, within one place; a bit is 0.30103 places. -/
def leading (digits : Nat) (power : Int) : Int := digits.log2 * 30103 / 100000 + 1 + power

/-- The nearest 64-bit float. -/
def Magnitude.toFloat : Magnitude → Float
  | .notANumber => 0.0 / 0.0
  | .infinite => 1.0 / 0.0
  | .finite digits power =>
    if digits = 0 ∨ leading digits power < -decimalRange then 0.0
    else if decimalRange < leading digits power then 1.0 / 0.0
    else Float.ofScientific digits (decide (power < 0)) power.natAbs

/-- The nearest 32-bit float, rounded once. -/
def Magnitude.toFloat32 : Magnitude → Float32
  | .notANumber => 0.0 / 0.0
  | .infinite => 1.0 / 0.0
  | .finite digits power =>
    if digits = 0 ∨ leading digits power < -decimalRange then 0.0
    else if decimalRange < leading digits power then 1.0 / 0.0
    else Float32.ofScientific digits (decide (power < 0)) power.natAbs

/-- The nearest 64-bit float. -/
def Literal.toFloat (l : Literal) : Float :=
  if l.negative then -l.magnitude.toFloat else l.magnitude.toFloat

/-- The nearest 32-bit float. -/
def Literal.toFloat32 (l : Literal) : Float32 :=
  if l.negative then -l.magnitude.toFloat32 else l.magnitude.toFloat32

/-- Reads a 64-bit float. -/
def float? (text : String) : Option Float := (Literal.ofChars? text.toList).map Literal.toFloat

/-! ### Integers -/

/-- Reads a whole number without a sign of its own: digits only, at least one. -/
def natural? (text : List Char) : Option Nat :=
  if text.isEmpty || !text.all Char.isDigit then none else some (digitsValue 0 text)

/-- Reads an unsigned number below `bound`; a plus sign may stand before it. -/
def unsigned? (bound : Nat) (text : String) : Option Nat :=
  let digits := match text.toList with
    | '+' :: rest => rest
    | text => text
  (natural? digits).filter (· < bound)

/-- Reads a number from `-bound` up to, but not including, `bound`; either sign may stand
before it. -/
def signed? (bound : Nat) (text : String) : Option Int :=
  let (negative, digits) := splitSign text.toList
  (natural? digits).bind fun n =>
    if negative then if n ≤ bound then some (-(n : Int)) else none
    else if n < bound then some (n : Int) else none

example : Literal.ofChars? "-1.50e2".toList = some ⟨true, .finite 150 0⟩ := by decide
example : Literal.ofChars? "1e".toList = none ∧ Literal.ofChars? ".".toList = none := by decide

end Downlink.Decimal
