import Downlink.Decimal.Precision
import Downlink.Text.Raw

/-!
# Numbers in arguments

An argument is read as a number as far as it looks like one. Integers are decimal, or octal or
hexadecimal by their first digits; other numbers are decimal or hexadecimal with a point and an
exponent. What does not fit is replaced by the nearest number that does.
-/

namespace Downlink.Tool

/-- A number read from the front of a text. -/
structure Reading (α : Type) where
  value : α
  /-- What stands behind the number; the whole text if there is none. -/
  rest : Raw
  /-- Whether the number had to be replaced. -/
  clamped : Bool

namespace Numeral

/-- Splits the blanks and the sign off a text. -/
def splitSign (text : Raw) : Bool × Raw :=
  match text.dropWhile Raw.isSpace with
  | '-' :: rest => (true, rest)
  | '+' :: rest => (false, rest)
  | rest => (false, rest)

/-! ### Integers -/

/-- The base of a number by its first digits, and the digits. -/
def basis (text : Raw) : Nat × Raw :=
  match text with
  | '0' :: mark :: digit :: rest =>
    if mark.toLower = 'x' ∧ Raw.isDigitOf 16 digit then (16, digit :: rest)
    else (8, text)
  | '0' :: _ => (8, text)
  | _ => (10, text)

/-- The sign, the size and what stands behind an integer; nothing when there is no digit. -/
def integer? (text : Raw) : Option (Bool × Nat × Raw) :=
  let (negative, text) := splitSign text
  let (base, text) := basis text
  let digits := text.takeWhile (Raw.isDigitOf base)
  if digits.isEmpty then none
  else some (negative, Raw.value base digits, text.drop digits.length)

/-- Reads a signed integer of 64 bits. -/
def signed (text : Raw) : Reading Int :=
  match integer? text with
  | none => ⟨0, text, false⟩
  | some (true, n, rest) =>
    if n ≤ twoTo 63 then ⟨-n, rest, false⟩ else ⟨-(twoTo 63 : Nat), rest, true⟩
  | some (false, n, rest) =>
    if n < twoTo 63 then ⟨n, rest, false⟩ else ⟨(twoTo 63 - 1 : Nat), rest, true⟩

/-- Reads an unsigned integer of 64 bits; a minus sign takes it from `2 ^ 64`. -/
def unsigned (text : Raw) : Reading Nat :=
  match integer? text with
  | none => ⟨0, text, false⟩
  | some (negative, n, rest) =>
    if twoTo 64 ≤ n then ⟨twoTo 64 - 1, rest, true⟩
    else ⟨if negative then (twoTo 64 - n) % twoTo 64 else n, rest, false⟩

/-! ### Other numbers -/

/-- A number with its sign, which one that stands for no number has as well. -/
structure Signed where
  negative : Bool
  size : Decimal.Value

/-- The text behind a word, if the text starts with it in any case. -/
def behind? (word : Raw) (text : Raw) : Option Raw :=
  if (text.take word.length).map Char.toLower = word then some (text.drop word.length) else none

/-- The text behind the bracket that may follow the word for no number. -/
def skipPayload (text : Raw) : Raw :=
  match text with
  | '(' :: rest =>
    match rest.dropWhile Raw.inName with
    | ')' :: rest => rest
    | _ => text
  | _ => text

/-- The digits before and behind a point, and what stands behind them. -/
def pointed (base : Nat) (text : Raw) : Raw × Raw × Raw :=
  let whole := text.takeWhile (Raw.isDigitOf base)
  match text.drop whole.length with
  | '.' :: rest =>
    let fraction := rest.takeWhile (Raw.isDigitOf base)
    if whole.isEmpty && fraction.isEmpty then (whole, fraction, text)
    else (whole, fraction, rest.drop fraction.length)
  | rest => (whole, [], rest)

/-- The exponent behind a mark, zero when there is none. -/
def exponent (mark : Char) (text : Raw) : Int × Raw :=
  match text with
  | c :: rest =>
    let (negative, digits) := match rest with
      | '-' :: rest => (true, rest)
      | '+' :: rest => (false, rest)
      | rest => (false, rest)
    let read := digits.takeWhile Char.isDigit
    if c.toLower = mark ∧ !read.isEmpty then
      let n : Int := Raw.value 10 read
      (if negative then -n else n, digits.drop read.length)
    else (0, text)
  | [] => (0, text)

/-- Exponents of two beyond which every format reads zero or infinity. -/
def exponentRange : Int := 20000

/-- Rounds `digits * base ^ power`, with sizes far outside the range cut short. -/
def scaled (p : Decimal.Precision) (base digits : Nat) (power : Int) : Decimal.Value × Bool :=
  let places : Int := Nat.log2 digits
  if digits = 0 then (.finite false 0 0, false)
  else if 0 ≤ power ∧ exponentRange < places + power then (.infinite false, true)
  else if places + power < -exponentRange then (.finite false 0 0, true)
  else p.round false (digits * Nat.pow base power.toNat) (Nat.pow base (-power).toNat)

/-- A number in digits of a base. -/
def digits? (p : Decimal.Precision) (text : Raw) : Option (Decimal.Value × Bool × Raw) :=
  let hexadecimal := match text with
    | '0' :: mark :: rest =>
      let (whole, fraction, behind) := pointed 16 rest
      if mark.toLower = 'x' ∧ !(whole.isEmpty && fraction.isEmpty) then
        some (whole ++ fraction, fraction.length, behind)
      else none
    | _ => none
  match hexadecimal with
  | some (digits, places, rest) =>
    let (power, rest) := exponent 'p' rest
    let (value, clamped) := scaled p 2 (Raw.value 16 digits) (power - 4 * places)
    some (value, clamped, rest)
  | none =>
    let (whole, fraction, rest) := pointed 10 text
    if whole.isEmpty && fraction.isEmpty then none
    else
      let (power, rest) := exponent 'e' rest
      let (value, clamped) :=
        scaled p 10 (Raw.value 10 (whole ++ fraction)) (power - fraction.length)
      some (value, clamped, rest)

/-- The size of a number, and what stands behind it. -/
def size? (p : Decimal.Precision) (text : Raw) : Option (Decimal.Value × Bool × Raw) :=
  match behind? "infinity".toList text, behind? "inf".toList text, behind? "nan".toList text with
  | some rest, _, _ => some (.infinite false, false, rest)
  | none, some rest, _ => some (.infinite false, false, rest)
  | none, none, some rest => some (.notANumber, false, skipPayload rest)
  | none, none, none => digits? p text

/-- Reads a number and rounds it to a precision. -/
def real (p : Decimal.Precision) (text : Raw) : Reading Signed :=
  let (negative, digits) := splitSign text
  match size? p digits with
  | some (size, clamped, rest) => ⟨⟨negative, size⟩, rest, clamped⟩
  | none => ⟨⟨false, .finite false 0 0⟩, text, false⟩

example : (signed " -0x1Fg".toList).value = -31 ∧ (signed " -0x1Fg".toList).rest = ['g'] := by
  decide +kernel

end Numeral

end Downlink.Tool
