import Downlink.Text.Blank

/-!
# Morse code

A dit holds the key for one unit and a dah for three. One unit separates the marks of a letter,
three units separate letters and seven separate words. Characters without a pattern are skipped.
-/

namespace Downlink.Morse

/-- The pattern of an upper-case letter, a digit or a sign. -/
def upperPattern : Char → Option String
  | 'A' => some ".-"
  | 'B' => some "-..."
  | 'C' => some "-.-."
  | 'D' => some "-.."
  | 'E' => some "."
  | 'F' => some "..-."
  | 'G' => some "--."
  | 'H' => some "...."
  | 'I' => some ".."
  | 'J' => some ".---"
  | 'K' => some "-.-"
  | 'L' => some ".-.."
  | 'M' => some "--"
  | 'N' => some "-."
  | 'O' => some "---"
  | 'P' => some ".--."
  | 'Q' => some "--.-"
  | 'R' => some ".-."
  | 'S' => some "..."
  | 'T' => some "-"
  | 'U' => some "..-"
  | 'V' => some "...-"
  | 'W' => some ".--"
  | 'X' => some "-..-"
  | 'Y' => some "-.--"
  | 'Z' => some "--.."
  | '0' => some "-----"
  | '1' => some ".----"
  | '2' => some "..---"
  | '3' => some "...--"
  | '4' => some "....-"
  | '5' => some "....."
  | '6' => some "-...."
  | '7' => some "--..."
  | '8' => some "---.."
  | '9' => some "----."
  | '/' => some "-..-."
  | '?' => some "..--.."
  | '.' => some ".-.-.-"
  | ',' => some "--..--"
  | '=' => some "-...-"
  | _ => none

/-- The pattern of a character, a point for a dit and a hyphen for a dah. -/
def pattern (c : Char) : Option String := upperPattern c.toUpper

/-- The key held or left for a number of units. -/
structure KeyRun where
  down : Bool
  units : Nat
  deriving DecidableEq, Repr

namespace KeyRun

/-- The key left. -/
def up (units : Nat) : KeyRun := ⟨false, units⟩

/-- The key held for a mark. -/
def mark (c : Char) : KeyRun := ⟨true, if c = '-' then 3 else 1⟩

end KeyRun

/-- The gap before a letter, then its marks, each with the gap before it. -/
def letterRuns (c : Char) : List KeyRun :=
  match pattern c with
  | none => []
  | some marks => .up 3 :: marks.toList.flatMap fun mark => [.up 1, .mark mark]

/-- The gap before a word, then its letters. -/
def wordRuns (word : List Char) : List KeyRun := .up 7 :: word.flatMap letterRuns

/-- Gaps in a row are one gap, as long as the longest of them. -/
def mergeGaps : List KeyRun → List KeyRun
  | [] => []
  | r :: rest =>
    match mergeGaps rest with
    | [] => [r]
    | s :: rest =>
      if r.down || s.down then r :: s :: rest else .up (max r.units s.units) :: rest

/-- Without the gap in front. -/
def dropLeadingGap : List KeyRun → List KeyRun
  | [] => []
  | r :: rest => if r.down then r :: rest else rest

/-- The runs of the key that spell words. -/
def keyWords (words : List (List Char)) : List KeyRun :=
  dropLeadingGap (mergeGaps (words.flatMap wordRuns))

/-- The runs of the key that spell a text. -/
def keyRuns (text : String) : List KeyRun := keyWords (Text.wordsOf text.toList)

end Downlink.Morse
