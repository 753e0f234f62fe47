import Downlink.Tool.Script.Pattern

/-!
# Fields of a command

What a word expands to is cut into fields: text that came out of an expansion is split at
separators, text in quotes and text that was written as it is stays together. Blank separators are
joined and vanish at either end; each other separator ends a field, even an empty one.
-/

namespace Downlink.Tool.Script

/-- Where a character of an expanded word came from. -/
inductive Origin where
  | written
  | quoted
  | expanded
  deriving DecidableEq, Repr

/-- A part of an expanded word. -/
inductive Atom where
  | character (c : Char) (origin : Origin)
  /-- Quotes, which make a field of nothing. -/
  | quotes
  /-- The end of one argument and the start of the next. -/
  | boundary
  deriving DecidableEq, Repr

namespace Atom

/-- The characters of a text. -/
def ofRaw (origin : Origin) (raw : Raw) : List Atom := raw.map fun c => .character c origin

/-- The characters of atoms, and whether they were in quotes. -/
def marks (atoms : List Atom) : List Mark :=
  atoms.filterMap fun atom =>
    match atom with
    | .character c origin => some ⟨c, origin == .quoted⟩
    | _ => none

/-- The text of atoms that are not split. -/
def text (atoms : List Atom) : Raw := (marks atoms).map Mark.character

/-- Atoms of a word that stands for an expansion: what was written as it is counts as expanded. -/
def soften (atom : Atom) : Atom :=
  match atom with
  | .character c .written => .character c .expanded
  | atom => atom

end Atom

namespace Field

/-- A word on its way into fields. -/
structure Splitting where
  /-- The fields that are complete, the last one first. -/
  fields : List Raw
  /-- The characters of the current field in reverse, if it has begun. -/
  current : Option Raw
  /-- Whether only blank separators stand between here and the field before. -/
  blank : Bool

namespace Splitting

/-- Before the first atom. -/
def start : Splitting := ⟨[], none, false⟩

/-- Ends the current field if it has begun. -/
def close (s : Splitting) (blank : Bool) : Splitting :=
  match s.current with
  | some raw => ⟨raw.reverse :: s.fields, none, blank⟩
  | none => { s with blank := s.blank && blank }

/-- Adds to the current field. -/
def grow (s : Splitting) (raw : Raw) : Splitting :=
  { s with current := some (raw ++ s.current.getD []), blank := false }

/-- A separator that is no blank. -/
def separate (s : Splitting) : Splitting :=
  match s.current with
  | some _ => s.close false
  | none => if s.blank then { s with blank := false } else { s with fields := [] :: s.fields }

/-- Takes the next atom; `separators` split what was expanded. -/
def take (separators : Raw) (s : Splitting) (atom : Atom) : Splitting :=
  match atom with
  | .character c .expanded =>
    if !separators.contains c then s.grow [c]
    else if " \t\n".toList.contains c then s.close true
    else s.separate
  | .character c _ => s.grow [c]
  | .quotes => s.grow []
  | .boundary => s.close false

end Splitting

/-- The fields of an expanded word. -/
def split (separators : Raw) (atoms : List Atom) : List Raw :=
  ((atoms.foldl (Splitting.take separators) .start).close false).fields.reverse

example : split " \t\n".toList (Atom.ofRaw .expanded " a  b ".toList) = [['a'], ['b']] := by decide
example : split ":".toList (Atom.ofRaw .expanded "a::b".toList) = [['a'], [], ['b']] := by decide

end Field

end Downlink.Tool.Script
