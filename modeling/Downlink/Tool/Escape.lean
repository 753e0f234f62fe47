import Downlink.Decimal.Scientific
import Downlink.Text.Raw

/-!
# Escapes

Behind a backslash stand letters for control characters, or the number of a byte in octal or
hexadecimal. The tools that print differ in what they know, so each has a table of its own. An
escape that is not known stands for itself.
-/

namespace Downlink.Tool

/-- The escapes that a tool knows. -/
structure Escapes where
  /-- The letters and the numbers of their bytes. -/
  letters : List (Char × Nat)
  /-- Whether `c` ends everything that is printed. -/
  stops : Bool
  /-- Whether an octal number may have a zero in front of its three digits. -/
  leadingZero : Bool
  /-- Whether `x` stands before a hexadecimal number. -/
  hexadecimal : Bool
  /-- Whether an `x` without a number is a fault. -/
  strict : Bool
  /-- Whether `u` and `U` stand before the number of a character. -/
  codePoints : Bool

/-- What the characters behind a backslash stand for. -/
inductive Escape where
  /-- Bytes, and how many of the characters they take. -/
  | bytes (raw : Raw) (taken : Nat)
  /-- The end of everything that is printed. -/
  | stop
  | malformed
  deriving DecidableEq, Repr

/-- How printing ended. -/
inductive Ending where
  | onward
  /-- An escape asked for the end. -/
  | stopped
  | malformed
  deriving DecidableEq, Repr

namespace Escapes

/-- The letters for control characters, and the backslash. -/
def controls : List (Char × Nat) :=
  [('a', 7), ('b', 8), ('t', 9), ('n', 10), ('v', 11), ('f', 12), ('r', 13), ('e', 27), ('\\', 92)]

/-- The byte with a number, of which the low eight bits count. -/
def byte (n : Nat) : Raw := [Char.ofNat (n % 256)]

/-- An octal number, at most three digits of it. -/
def octal (k : Escapes) (text : Raw) : Escape :=
  let skipped := if k.leadingZero && text.head? == some '0' then 1 else 0
  let digits := ((text.drop skipped).take 3).takeWhile (Raw.isDigitOf 8)
  .bytes (byte (Raw.value 8 digits)) (skipped + digits.length)

/-- A hexadecimal number of at most two digits behind its mark. -/
def hexadecimalByte (k : Escapes) (text : Raw) : Escape :=
  let digits := (text.take 2).takeWhile (Raw.isDigitOf 16)
  if digits.isEmpty then if k.strict then .malformed else .bytes ['\\', 'x'] 1
  else .bytes (byte (Raw.value 16 digits)) (digits.length + 1)

/-- Whether a number may be named: not one of a character that every text has anyway, three signs
apart, nor one that is kept for halves of characters. -/
def isNamed (n : Nat) : Bool :=
  [0x24, 0x40, 0x60].contains n || (0x9F < n && !(0xD800 ≤ n && n ≤ 0xDFFF))

/-- The number of a character behind its mark. A character that is no byte is written as an escape
again. -/
def codePoint (mark : Char) (text : Raw) : Escape :=
  let width := if mark = 'u' then 4 else 8
  let digits := text.take width
  let n := Raw.value 16 digits
  if digits.length < width || !digits.all (Raw.isDigitOf 16) || !isNamed n then .malformed
  else if n < 0x80 then .bytes [Char.ofNat n] (width + 1)
  else
    let (mark, shown) := if n < 0x10000 then ('u', 4) else ('U', 8)
    .bytes ('\\' :: mark :: (Decimal.digitsIn 16 shown n).toUpper.toList) (width + 1)

/-- What stands behind a backslash. -/
def read (k : Escapes) (text : Raw) : Escape :=
  match text with
  | [] => .bytes ['\\'] 0
  | c :: rest =>
    if c = 'c' ∧ k.stops then .stop
    else
      match k.letters.lookup c with
      | some n => .bytes (byte n) 1
      | none =>
        if Raw.isDigitOf 8 c then k.octal text
        else if c = 'x' ∧ k.hexadecimal then k.hexadecimalByte rest
        else if (c = 'u' ∨ c = 'U') ∧ k.codePoints then codePoint c rest
        else .bytes ['\\'] 0

/-- A text with its escapes replaced, up to the one that ends it. -/
def apply (k : Escapes) : Raw → Raw × Ending
  | [] => ([], .onward)
  | c :: rest =>
    if c = '\\' then
      match k.read rest with
      | .stop => ([], .stopped)
      | .malformed => ([], .malformed)
      | .bytes raw taken =>
        let (out, ending) := k.apply (rest.drop taken)
        (raw ++ out, ending)
    else
      let (out, ending) := k.apply rest
      (c :: out, ending)
  termination_by text => text.length
  decreasing_by all_goals simp only [List.length_drop, List.length_cons]; omega

/-! ### The tables -/

/-- The escapes of a row of arguments. -/
def row : Escapes :=
  { letters := controls, stops := true, leadingZero := true, hexadecimal := true, strict := false
    codePoints := false }

/-- The escapes of a format. -/
def format : Escapes :=
  { letters := ('"', 34) :: controls, stops := true, leadingZero := false, hexadecimal := true
    strict := true, codePoints := true }

/-- The escapes of an argument under a format. -/
def argument : Escapes := { format with leadingZero := true }

/-- The escapes of a format in a script. -/
def scriptFormat : Escapes :=
  { letters := controls, stops := false, leadingZero := false, hexadecimal := false
    strict := false, codePoints := false }

/-- The escapes of an argument in a script. -/
def scriptArgument : Escapes := { scriptFormat with stops := true, leadingZero := true }

example : row.apply "\\x4g\\0101\\q\\c!".toList = ("\x04gA\\q".toList, .stopped) := by
  decide +kernel

end Escapes

end Downlink.Tool
