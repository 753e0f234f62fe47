/-!
# Reports as text

A report is a tree of numbers, texts, lists and named entries. It is written with every entry on a
line of its own, indented by two blanks a level. The texts of reports need no escapes.
-/

namespace Downlink.Console

/-- A report. -/
inductive Document where
  /-- A number, as it is to be written. -/
  | number (digits : String)
  | text (value : String)
  | list (items : List Document)
  | record (entries : List (String × Document))

namespace Document

/-- A text between quotation marks. -/
def quoted (value : String) : String := "\"" ++ value ++ "\""

/-- The start of a line at a level. -/
def indent (level : Nat) : String := String.ofList (List.replicate (2 * level) ' ')

/-- Encloses lines that end a level below. -/
def enclosed (opening closing : String) (level : Nat) (lines : List String) : String :=
  if lines.isEmpty then opening ++ closing
  else opening ++ "\n" ++ ",\n".intercalate lines ++ "\n" ++ indent level ++ closing

mutual

/-- Writes a report that stands at a level. -/
def render (level : Nat) : Document → String
  | .number digits => digits
  | .text value => quoted value
  | .list items => enclosed "[" "]" level (renderItems (level + 1) items)
  | .record entries => enclosed "\x7b" "\x7d" level (renderEntries (level + 1) entries)

/-- The lines of a list. -/
def renderItems (level : Nat) : List Document → List String
  | [] => []
  | d :: rest => (indent level ++ d.render level) :: renderItems level rest

/-- The lines of named entries. -/
def renderEntries (level : Nat) : List (String × Document) → List String
  | [] => []
  | (name, d) :: rest =>
    (indent level ++ quoted name ++ ": " ++ d.render level) :: renderEntries level rest

end

/-- A whole number. -/
def count (n : Nat) : Document := .number (toString n)

end Document

end Downlink.Console
