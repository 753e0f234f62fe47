import Downlink.Text.Utf8

/-!
# Raw text

What other programs and names of hosts are made of is bytes. A raw text has one character for each
byte, the one with the number of the byte, so that bytes are written down and matched like
characters.
-/

namespace Downlink

/-- A text whose characters stand for bytes. -/
abbrev Raw := List Char

namespace Raw

/-- The raw text of bytes. -/
def ofBytes (bytes : ByteArray) : Raw := bytes.data.toList.map fun b => Char.ofNat b.toNat

/-- The bytes of a text. -/
def ofText (text : String) : Raw := ofBytes text.toUTF8

/-- The bytes that a raw text stands for. -/
def bytes (raw : Raw) : List UInt8 := raw.map fun c => UInt8.ofNat c.toNat

/-- The text of bytes, with replacement characters where they are no text. -/
def toText (raw : Raw) : String := String.ofList (Text.decodeLossy raw.bytes)

/-- The digits of a number. -/
def ofNat (n : Nat) : Raw := (toString n).toList

/-- The digits of a number behind its sign. -/
def ofInt (n : Int) : Raw := (toString n).toList

/-- Whether a character separates words: a blank, or one of the five controls from the tab on. -/
def isSpace (c : Char) : Bool := c == ' ' || (0x09 ≤ c.toNat && c.toNat ≤ 0x0D)

/-- Whether a character is a digit of a base of at most sixteen. -/
def isDigitOf (base : Nat) (c : Char) : Bool :=
  (c.isDigit && c.toNat - '0'.toNat < base) ||
    (base == 16 && ('a' ≤ c.toLower && c.toLower ≤ 'f'))

/-- The value of a digit. -/
def digitValue (c : Char) : Nat :=
  if c.isDigit then c.toNat - '0'.toNat else c.toLower.toNat - 'a'.toNat + 10

/-- The value of digits of a base. -/
def value (base : Nat) (digits : Raw) : Nat := digits.foldl (fun n c => n * base + digitValue c) 0

/-- Whether a character may start a name. -/
def startsName (c : Char) : Bool := c.isAlpha || c == '_'

/-- Whether a character may stand in a name. -/
def inName (c : Char) : Bool := startsName c || c.isDigit

/-- The pieces of a text between separators; there is one more than there are separators. -/
def pieces (separator : Char) : Raw → List Raw
  | [] => [[]]
  | c :: rest =>
    match pieces separator rest with
    | first :: others => if c = separator then [] :: first :: others else (c :: first) :: others
    | [] => [[c]]

theorem length_pieces (separator : Char) (text : Raw) :
    (pieces separator text).length = text.count separator + 1 := by
  induction text with
  | nil => rfl
  | cons c rest ih =>
    cases h : pieces separator rest with
    | nil => simp [h] at ih
    | cons first others =>
      by_cases same : c = separator <;> simp_all [pieces]

theorem toNat_ofNat_byte (b : UInt8) : (Char.ofNat b.toNat).toNat = b.toNat := by
  have below : b.toNat < 256 := b.toNat_lt
  have valid : b.toNat.isValidChar := by left; omega
  rw [Char.ofNat, dif_pos valid]
  rfl

/-- Bytes are written down without loss. -/
theorem bytes_ofBytes (b : ByteArray) : bytes (ofBytes b) = b.data.toList := by
  simp [bytes, ofBytes, toNat_ofNat_byte, Function.comp_def]

@[simp] theorem value_nil (base : Nat) : value base [] = 0 := rfl

example : value 16 "fF".toList = 255 ∧ value 8 "17".toList = 15 := by decide

end Raw

end Downlink
