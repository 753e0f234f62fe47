import Downlink.Tool.Numeral

/-!
# Arithmetic in a script

Expressions are computed in signed 64-bit integers that wrap around. Variables hold texts; one that
is missing or blank counts as zero, and one that is no number is a fault, like a division by zero.
-/

namespace Downlink.Tool.Script

/-- An arithmetic expression. -/
inductive Expression where
  | number (n : Int)
  | named (name : Raw)
  | unary (mark : Char) (operand : Expression)
  | binary (mark : String) (left right : Expression)
  | choice (test yes no : Expression)
  /-- A variable becomes the value of an expression, or its own combined with it. -/
  | assignment (name : Raw) (mark : String) (value : Expression)
  deriving DecidableEq, Repr

namespace Expression

/-! ### Tokens -/

/-- A token of an expression. -/
inductive Token where
  | number (n : Int)
  | name (raw : Raw)
  | mark (text : String)
  deriving DecidableEq, Repr

/-- The marks, longer ones before their starts. -/
def marks : List String :=
  ["<<=", ">>=", "&&", "||", "==", "!=", "<=", ">=", "<<", ">>", "+=", "-=", "*=", "/=", "%=",
    "&=", "^=", "|=", "(", ")", "!", "~", "*", "/", "%", "+", "-", "<", ">", "&", "^", "|", "?",
    ":", "="]

/-- Cuts an expression into tokens; `fuel` bounds their number. -/
def tokensFrom : Nat → Raw → Option (List Token)
  | 0, _ => none
  | fuel + 1, text =>
    match text.dropWhile Raw.isSpace with
    | [] => some []
    | c :: rest =>
      let text := c :: rest
      if c.isDigit then
        let r := Numeral.signed text
        (tokensFrom fuel r.rest).map (.number r.value :: ·)
      else if Raw.startsName c then
        let name := text.takeWhile Raw.inName
        (tokensFrom fuel (text.drop name.length)).map (.name name :: ·)
      else
        match marks.find? fun m => m.toList.isPrefixOf text with
        | some m => (tokensFrom fuel (text.drop m.length)).map (.mark m :: ·)
        | none => none

/-! ### Reading -/

/-- Reads an expression and leaves the tokens behind it. -/
abbrev Reader := List Token → Option (Expression × List Token)

/-- The marks between two operands, those that bind least first. -/
def levels : List (List String) :=
  [["||"], ["&&"], ["|"], ["^"], ["&"], ["==", "!="], ["<", ">", "<=", ">="], ["<<", ">>"],
    ["+", "-"], ["*", "/", "%"]]

/-- Reads what is joined to a left operand by the marks of a level. -/
def joined (operand : Reader) (marks : List String) : Nat → Expression → Reader
  | 0, _, _ => none
  | fuel + 1, left, tokens =>
    match tokens with
    | .mark m :: rest =>
      if marks.contains m then do
        let (right, rest) ← operand rest
        joined operand marks fuel (.binary m left right) rest
      else some (left, tokens)
    | _ => some (left, tokens)

/-- Reads operands joined by the marks of levels. -/
def binaries (operand : Reader) : List (List String) → Reader
  | [], tokens => operand tokens
  | marks :: tighter, tokens => do
    let (left, rest) ← binaries operand tighter tokens
    joined (binaries operand tighter) marks (tokens.length + 1) left rest

/-- Reads an operand with the marks in front of it. -/
def operand (whole : Reader) : Nat → Reader
  | 0, _ => none
  | fuel + 1, tokens =>
    match tokens with
    | .number n :: rest => some (.number n, rest)
    | .name raw :: rest => some (.named raw, rest)
    | .mark "(" :: rest =>
      match whole rest with
      | some (e, .mark ")" :: rest) => some (e, rest)
      | _ => none
    | .mark "!" :: rest => (operand whole fuel rest).map fun r => (.unary '!' r.1, r.2)
    | .mark "~" :: rest => (operand whole fuel rest).map fun r => (.unary '~' r.1, r.2)
    | .mark "-" :: rest => (operand whole fuel rest).map fun r => (.unary '-' r.1, r.2)
    | .mark "+" :: rest => operand whole fuel rest
    | _ => none

/-- The mark that combines, of a mark that assigns. -/
def combining? (mark : String) : Option String :=
  if mark = "=" then some ""
  else if ["<<=", ">>=", "+=", "-=", "*=", "/=", "%=", "&=", "^=", "|="].contains mark then
    some (String.ofList (mark.toList.dropLast))
  else none

/-- Reads a test and the choices behind it, the last of which is no assignment outside of brackets;
`fuel` bounds their number. -/
def conditional (whole : Reader) : Nat → Reader
  | 0, _ => none
  | fuel + 1, tokens => do
    let (test, rest) ← binaries (operand whole (tokens.length + 1)) levels tokens
    match rest with
    | .mark "?" :: rest =>
      match ← whole rest with
      | (yes, .mark ":" :: rest) =>
        let (no, rest) ← conditional whole fuel rest
        return (.choice test yes no, rest)
      | _ => none
    | rest => return (test, rest)

/-- Reads an expression; `fuel` bounds how deeply it is nested. -/
def read : Nat → Reader
  | 0, _ => none
  | fuel + 1, tokens =>
    let plainly := conditional (read fuel) (tokens.length + 1)
    match tokens with
    | .name raw :: .mark m :: rest =>
      match combining? m with
      | some m => (read fuel rest).map fun r => (.assignment raw m r.1, r.2)
      | none => plainly tokens
    | tokens => plainly tokens

/-- Reads a text as an expression. -/
def ofRaw? (text : Raw) : Option Expression := do
  let tokens ← tokensFrom (text.length + 1) text
  match ← read (tokens.length + 1) tokens with
  | (e, []) => some e
  | _ => none

/-! ### Values -/

/-- The number that wraps to a number. -/
def wrap (n : Int) : Int := n.bmod (twoTo 64)

/-- One for what holds and zero for what does not. -/
def ofBool (b : Bool) : Int := if b then 1 else 0

/-- The bits of a number. -/
def bits (n : Int) : Nat := (n.emod (twoTo 64)).toNat

/-- Combines two numbers, if they can be. -/
def combine? (mark : String) (a b : Int) : Option Int :=
  match mark with
  | "*" => some (wrap (a * b))
  | "/" => if b = 0 then none else some (wrap (a.tdiv b))
  | "%" => if b = 0 then none else some (wrap (a.tmod b))
  | "+" => some (wrap (a + b))
  | "-" => some (wrap (a - b))
  | "<<" => some (wrap (a * twoTo (bits b % 64)))
  | ">>" => some (a.fdiv (twoTo (bits b % 64)))
  | "<" => some (ofBool (a < b))
  | ">" => some (ofBool (b < a))
  | "<=" => some (ofBool (a ≤ b))
  | ">=" => some (ofBool (b ≤ a))
  | "==" => some (ofBool (a = b))
  | "!=" => some (ofBool (a ≠ b))
  | "&" => some (wrap (Nat.land (bits a) (bits b)))
  | "^" => some (wrap (Nat.xor (bits a) (bits b)))
  | "|" => some (wrap (Nat.lor (bits a) (bits b)))
  | _ => some b

/-- The variables that an expression sees, the latest first. -/
abbrev Scope := List (Raw × Raw)

/-- The number that a variable holds. -/
def held? (scope : Scope) (name : Raw) : Option Int :=
  let text := (scope.lookup name).getD []
  let r := Numeral.signed text
  if text.all Raw.isSpace then some 0
  else if !(r.rest.all Raw.isSpace) || r.clamped then none
  else some r.value

/-- The value of an expression, and the variables as it leaves them. What is not needed is not
computed. -/
def value? (scope : Scope) : Expression → Option (Int × Scope)
  | number n => some (n, scope)
  | named name => (held? scope name).map fun n => (n, scope)
  | unary mark e => (value? scope e).map fun r =>
    (match mark with
      | '!' => ofBool (r.1 = 0)
      | '~' => -r.1 - 1
      | _ => wrap (-r.1), r.2)
  | binary "&&" left right => do
    let (a, scope) ← value? scope left
    if a = 0 then return (0, scope)
    let (b, scope) ← value? scope right
    return (ofBool (b ≠ 0), scope)
  | binary "||" left right => do
    let (a, scope) ← value? scope left
    if a ≠ 0 then return (1, scope)
    let (b, scope) ← value? scope right
    return (ofBool (b ≠ 0), scope)
  | binary mark left right => do
    let (a, scope) ← value? scope left
    let (b, scope) ← value? scope right
    return (← combine? mark a b, scope)
  | choice test yes no => do
    let (a, scope) ← value? scope test
    if a ≠ 0 then value? scope yes else value? scope no
  | assignment name mark e => do
    let (b, scope) ← value? scope e
    let n ← if mark = "" then some b else do combine? mark (← held? scope name) b
    return (n, (name, Raw.ofInt n) :: scope)

end Expression

end Downlink.Tool.Script
