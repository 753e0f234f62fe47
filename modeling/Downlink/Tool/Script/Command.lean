import Downlink.Text.Raw

/-!
# Commands of a script

A script is read into commands before it runs. A word is made of pieces: characters as they are or
in quotes, and expansions whose text is not known before the word is used.
-/

namespace Downlink.Tool.Script

/-- A place in a script: the number of the script's last line, and the text from there on. -/
structure Position where
  last : Nat
  behind : Raw

/-- The number of the line. -/
def Position.line (p : Position) : Nat := p.last - p.behind.count '\n'

/-- What is done with the value of a parameter; `emptyToo` says whether an empty value counts as
missing. -/
inductive Use where
  | value
  | length
  /-- A word stands for a missing value. -/
  | fallback (emptyToo : Bool)
  /-- A word becomes the value if it is missing. -/
  | assign (emptyToo : Bool)
  /-- A missing value is a fault, which a word describes. -/
  | require (emptyToo : Bool)
  /-- A word stands for a value that is not missing. -/
  | alternative (emptyToo : Bool)
  /-- The start that fits a pattern is left out. -/
  | dropFront (longest : Bool)
  /-- The end that fits a pattern is left out. -/
  | dropBack (longest : Bool)
  /-- There is no such use. -/
  | unknown
  deriving DecidableEq, Repr

/-- Where a redirection goes. -/
inductive Direction where
  | input
  | output
  | append
  | both
  /-- Another descriptor is copied, or closed by a hyphen. -/
  | copy
  /-- The target itself is read. -/
  | document
  deriving DecidableEq, Repr

mutual

/-- A piece of a word. -/
inductive Piece where
  | plain (c : Char)
  | quoted (c : Char)
  /-- Quotes around nothing, which are a word all the same. -/
  | quotes
  | parameter (quoted : Bool) (name : Raw) (use : Use) (word : List Piece)
  /-- The output of commands. -/
  | substitution (quoted : Bool) (body : Command)
  | arithmetic (quoted : Bool) (body : List Piece)

/-- A change of what a descriptor leads to. -/
inductive Redirection where
  | mk (descriptor : Nat) (direction : Direction) (target : List Piece)

/-- A command. -/
inductive Command where
  | nothing
  | simple (position : Position) (assignments : List (Raw × List Piece))
      (words : List (List Piece)) (redirections : List Redirection)
  | pipeline (stages : List Command)
  | negation (body : Command)
  | both (first second : Command)
  | either (first second : Command)
  | sequence (first second : Command)
  | background (body : Command)
  | subshell (body : Command)
  | redirected (body : Command) (redirections : List Redirection)
  | choice (test yes no : Command)
  /-- Runs a body as long as a test succeeds, or fails if `untilSuccess`. -/
  | loop (untilSuccess : Bool) (test body : Command)
  /-- Runs a body for each word, or for each argument if no words are given. -/
  | each (name : Raw) (words : Option (List (List Piece))) (body : Command)
  | select (word : List Piece) (branches : List (List (List Piece) × Command))
  | definition (name : Raw) (body : Command)

end

/-- A word before it is expanded. -/
abbrev Word := List Piece

/-- The text of a word without quotes and expansions. -/
def Word.plain? (word : Word) : Option Raw :=
  word.mapM fun piece =>
    match piece with
    | .plain c => some c
    | _ => none

/-- The name and the value of a word that is an assignment. -/
def Word.assignment? (word : Word) : Option (Raw × Word) :=
  let characters := word.map fun piece =>
    match piece with
    | .plain c => c
    | _ => '\x00'
  let name := characters.takeWhile Raw.inName
  if name.head?.any Raw.startsName ∧ (characters.drop name.length).head? = some '=' then
    some (name, word.drop (name.length + 1))
  else none

end Downlink.Tool.Script
