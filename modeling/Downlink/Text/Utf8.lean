import Downlink.Power

/-!
# Reading UTF-8 that may be damaged

A reader may print bytes that are no text. Each longest start of a character that is not completed,
and each byte that starts no character, reads as one replacement character; everything else reads
as it was written.
-/

namespace Downlink.Text

/-- The character put where bytes are no text. -/
def replacement : Char := '\uFFFD'

/-- Whether a byte continues a character. -/
def isContinuation (b : UInt8) : Bool := 0x80 ≤ b && b ≤ 0xBF

/-- The shape of a character by its first byte: the range of its second byte and the number of
bytes after that. Bytes below 0x80 are characters by themselves and have no shape here. -/
def leadShape (b : UInt8) : Option (UInt8 × UInt8 × Nat) :=
  if 0xC2 ≤ b && b ≤ 0xDF then some (0x80, 0xBF, 0)
  else if b = 0xE0 then some (0xA0, 0xBF, 1)
  else if b = 0xED then some (0x80, 0x9F, 1)
  else if 0xE1 ≤ b && b ≤ 0xEF then some (0x80, 0xBF, 1)
  else if b = 0xF0 then some (0x90, 0xBF, 2)
  else if 0xF1 ≤ b && b ≤ 0xF3 then some (0x80, 0xBF, 2)
  else if b = 0xF4 then some (0x80, 0x8F, 2)
  else none

/-- The bits that the first byte of an `n`-byte character contributes. -/
def leadBits (b : UInt8) (n : Nat) : Nat := b.toNat % twoTo (7 - n)

/-- Reads `n` continuation bytes onto a value. The number of bytes taken is returned too; the value
is missing when one of them does not continue the character. -/
def continuations : Nat → Nat → List UInt8 → Option Nat × Nat
  | 0, value, _ => (some value, 0)
  | _ + 1, _, [] => (none, 0)
  | n + 1, value, b :: rest =>
    if isContinuation b then
      let (answer, taken) := continuations n (value * 64 + b.toNat % 64) rest
      (answer, taken + 1)
    else (none, 0)

/-- The next character and how many bytes follow the first one in it. -/
def nextChar (b : UInt8) (rest : List UInt8) : Char × Nat :=
  if b < 0x80 then (Char.ofNat b.toNat, 0)
  else
    match leadShape b, rest with
    | some (low, high, more), c :: rest =>
      if low ≤ c && c ≤ high then
        let start := leadBits b (more + 2) * 64 + c.toNat % 64
        match continuations more start rest with
        | (some value, taken) => (Char.ofNat value, taken + 1)
        | (none, taken) => (replacement, taken + 1)
      else (replacement, 0)
    | _, _ => (replacement, 0)

/-- The text of bytes, with replacement characters where they are no text. -/
def decodeLossy : List UInt8 → List Char
  | [] => []
  | b :: rest =>
    let next := nextChar b rest
    next.1 :: decodeLossy (rest.drop next.2)
  termination_by bytes => bytes.length
  decreasing_by simp only [List.length_drop, List.length_cons]; omega

end Downlink.Text
