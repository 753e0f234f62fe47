import Downlink.Text.Raw

/-!
# Patterns

A pattern is text in which a star stands for any text, a question mark for any character and a
bracket for one of several characters. Characters in quotes stand for themselves.
-/

namespace Downlink.Tool.Script

/-- A character and whether it was in quotes. -/
structure Mark where
  character : Char
  quoted : Bool
  deriving DecidableEq, Repr

/-- An item of a bracket. -/
inductive Member where
  | range (first last : Char)
  /-- The characters of a class. -/
  | kind (name : Raw)
  deriving DecidableEq, Repr

/-- A part of a pattern. -/
inductive Element where
  | exactly (c : Char)
  | anyCharacter
  | anyText
  | oneOf (negated : Bool) (members : List Member)
  deriving DecidableEq, Repr

namespace Member

/-- Whether a character belongs to a class. -/
def ofKind (name : Raw) (c : Char) : Bool :=
  match String.ofList name with
  | "alpha" => c.isAlpha
  | "digit" => c.isDigit
  | "alnum" => c.isAlphanum
  | "upper" => c.isUpper
  | "lower" => c.isLower
  | "space" => Raw.isSpace c
  | "blank" => c == ' ' || c == '\t'
  | "xdigit" => Raw.isDigitOf 16 c
  | "punct" => 0x21 ≤ c.toNat && c.toNat ≤ 0x7E && !c.isAlphanum
  | "print" => 0x20 ≤ c.toNat && c.toNat ≤ 0x7E
  | "graph" => 0x21 ≤ c.toNat && c.toNat ≤ 0x7E
  | "cntrl" => c.toNat < 0x20 || c.toNat == 0x7F
  | _ => false

/-- Whether a character belongs to an item. -/
def contains (m : Member) (c : Char) : Bool :=
  match m with
  | range first last => first ≤ c && c ≤ last
  | kind name => ofKind name c

end Member

namespace Pattern

/-- Whether a mark is a character outside of quotes. -/
def isBare (m : Mark) (c : Char) : Bool := m.character == c && !m.quoted

/-- The name of a class and the marks behind it. -/
def className? (marks : List Mark) : Option (Raw × List Mark) :=
  let name := (marks.takeWhile fun m => m.character.isAlpha).map Mark.character
  match marks.drop name.length with
  | a :: b :: rest => if isBare a ':' ∧ isBare b ']' then some (name, rest) else none
  | _ => none

/-- The items of a bracket up to its end, and what stands behind it. The end does not count as one
right at the start. -/
def members : Nat → Bool → List Mark → Option (List Member × List Mark)
  | 0, _, _ => none
  | _ + 1, _, [] => none
  | fuel + 1, atStart, m :: rest =>
    let item := fun member rest =>
      (members fuel false rest).map fun read => (member :: read.1, read.2)
    if isBare m ']' ∧ !atStart then some ([], rest)
    else
      match rest with
      | dash :: last :: rest' =>
        if isBare m '[' ∧ isBare dash ':' then
          match className? (last :: rest') with
          | some (name, rest) => item (.kind name) rest
          | none => item (.range m.character m.character) rest
        else if isBare dash '-' ∧ !isBare last ']' then
          item (.range m.character last.character) rest'
        else item (.range m.character m.character) rest
      | _ => item (.range m.character m.character) rest

/-- The bracket at the front of marks, behind its opening. -/
def bracket? (marks : List Mark) : Option (Element × List Mark) :=
  let (negated, marks) := match marks with
    | m :: rest => if isBare m '!' then (true, rest) else (false, marks)
    | [] => (false, [])
  (members (marks.length + 1) true marks).map fun read => (.oneOf negated read.1, read.2)

/-- Reads a pattern; `fuel` bounds the number of its parts. -/
def readFrom : Nat → List Mark → List Element
  | 0, _ => []
  | _ + 1, [] => []
  | fuel + 1, m :: rest =>
    if m.quoted then .exactly m.character :: readFrom fuel rest
    else if m.character = '*' then .anyText :: readFrom fuel rest
    else if m.character = '?' then .anyCharacter :: readFrom fuel rest
    else if m.character = '[' then
      match bracket? rest with
      | some (element, rest) => element :: readFrom fuel rest
      | none => .exactly '[' :: readFrom fuel rest
    else .exactly m.character :: readFrom fuel rest

/-- Reads a pattern. -/
def read (marks : List Mark) : List Element := readFrom (marks.length + 1) marks

/-- Whether a pattern fits the whole of a text. -/
def fits : List Element → Raw → Bool
  | [], text => text.isEmpty
  | .anyText :: rest, text => (List.range (text.length + 1)).any fun n => fits rest (text.drop n)
  | .anyCharacter :: rest, text =>
    match text with
    | _ :: text => fits rest text
    | [] => false
  | .exactly c :: rest, text =>
    match text with
    | d :: text => c == d && fits rest text
    | [] => false
  | .oneOf negated members :: rest, text =>
    match text with
    | d :: text => (members.any (·.contains d) != negated) && fits rest text
    | [] => false

/-- The text up to the character that stands between arguments. -/
def firstArgument (text : Raw) : Raw := text.takeWhile (· != '\x00')

/-- A text that is no list of arguments is looked at as a whole. -/
theorem firstArgument_of_not_mem (text : Raw) (one : '\x00' ∉ text) :
    firstArgument text = text := by
  induction text with
  | nil => rfl
  | cons c rest ih =>
    have other : c ≠ '\x00' := fun same => one (same ▸ List.mem_cons_self)
    have inside : '\x00' ∉ rest := fun h => one (List.mem_cons_of_mem c h)
    have first : (c != '\x00') = true := by simpa using other
    rw [firstArgument, List.takeWhile_cons, if_pos first]
    exact congrArg (c :: ·) (ih inside)

/-- The lengths of starts of a text up to its length, the shortest first. -/
def lengths (text : Raw) : List Nat := List.range (text.length + 1)

/-- The text without the start that fits a pattern. Of a start of several arguments the first one
has to fit; the shortest start is looked for in the first argument alone. -/
def dropFront (pattern : List Element) (longest : Bool) (text : Raw) : Raw :=
  let lengths := if longest then (lengths text).reverse else lengths (firstArgument text)
  match lengths.find? fun n => fits pattern (firstArgument (text.take n)) with
  | some n => text.drop n
  | none => text

/-- The text without the end that fits a pattern. Of an end of several arguments the first one has
to fit; the longest end is looked for in the first argument alone. -/
def dropBack (pattern : List Element) (longest : Bool) (text : Raw) : Raw :=
  let lengths := if longest then lengths (firstArgument text) else (lengths text).reverse
  match lengths.find? fun n => fits pattern (firstArgument (text.drop n)) with
  | some n => text.take n
  | none => text

/-- A star fits everything. -/
theorem fits_anyText (text : Raw) : fits [.anyText] text = true := by
  simp only [fits, List.any_eq_true, List.mem_range]
  exact ⟨text.length, by omega, by simp⟩

end Pattern

end Downlink.Tool.Script
