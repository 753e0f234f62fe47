import Downlink.Console.Usage

/-!
# Reading arguments

Arguments are read from left to right. Two hyphens in a row make all that follows operands. An
option may be given once; its value stands behind it or behind an equals sign, or directly behind
its letter. A value that looks like an option is none, unless the next operand may be a negative
number and it looks like one.
-/

namespace Downlink.Console

/-- Why arguments do not lead to a command. -/
inductive Refusal where
  | misuse
  /-- The arguments ask for an explanation. -/
  | help
  deriving DecidableEq, Repr

/-- Arguments read so far. -/
structure Arguments where
  operands : List String
  /-- The values by the names of their options, an empty text for a flag. -/
  values : List (String × String)
  /-- The option whose value comes next. -/
  waiting : Option Parameter
  /-- Whether all that follows is an operand. -/
  literal : Bool
  deriving DecidableEq, Repr

/-- Whether digits that follow a minus sign make a number: at most one point, not in front, and at
most one exponent, neither in front nor at the end. -/
def isNumber (text : List Char) : Bool :=
  let mantissa := text.takeWhile (· != 'e')
  let exponent := text.drop mantissa.length
  let plain := mantissa.all (fun c => c.isDigit || c == '.') && mantissa.count '.' ≤ 1 &&
    mantissa.head? != some '.'
  match exponent with
  | [] => plain
  | _ :: digits => plain && !mantissa.isEmpty && !digits.isEmpty && digits.all Char.isDigit

namespace Arguments

/-- Before the first argument. -/
def empty : Arguments := { operands := [], values := [], waiting := none, literal := false }

/-- Whether an option was given. -/
def has (a : Arguments) (name : String) : Bool := (a.values.lookup name).isSome

/-- The operand that the next one fills. -/
def next? (a : Arguments) (u : Usage) : Option Operand := u.operands[a.operands.length]?

/-- Notes an option. -/
def store (a : Arguments) (p : Parameter) (value : String) : Except Refusal Arguments :=
  if a.has p.name then .error .misuse
  else if p.value.all fun v => v.1.accepts value then
    .ok { a with values := a.values ++ [(p.name, value)], waiting := none }
  else .error .misuse

/-- Reads an operand. -/
def operand (a : Arguments) (u : Usage) (value : String) : Except Refusal Arguments :=
  match a.waiting, a.next? u with
  | none, some o =>
    if o.kind.accepts value then .ok { a with operands := a.operands ++ [value] }
    else .error .misuse
  | _, _ => .error .misuse

/-- Reads what does not look like an option. -/
def plain (a : Arguments) (u : Usage) (value : String) : Except Refusal Arguments :=
  match a.waiting with
  | some p => a.store p value
  | none => a.operand u value

/-- Reads an option whose value may be attached. -/
def option (a : Arguments) (p : Parameter) (attached : Option String) :
    Except Refusal Arguments :=
  match p.value, attached with
  | none, none => a.store p ""
  | none, some _ => .error .misuse
  | some _, some value => a.store p value
  | some _, none => .ok { a with waiting := some p }

/-- Reads an option by name. -/
def byName (a : Arguments) (u : Usage) (text : List Char) : Except Refusal Arguments :=
  let name := String.ofList (text.takeWhile (· != '='))
  let attached :=
    if text.contains '=' then some (String.ofList ((text.dropWhile (· != '=')).drop 1)) else none
  match u.named? name with
  | some p => a.option p attached
  | none => .error (if name = "help" ∧ attached = none then .help else .misuse)

/-- Reads options by letter. What follows the letter of an option with a value is the value. -/
def byLetter (a : Arguments) (u : Usage) : List Char → Except Refusal Arguments
  | [] => .ok a
  | c :: rest =>
    match u.lettered? c with
    | none => .error (if c = 'h' then .help else .misuse)
    | some p =>
      match p.value, rest with
      | none, rest => do (← a.store p "").byLetter u rest
      | some _, [] => a.option p none
      | some _, '=' :: value => a.store p (String.ofList value)
      | some _, value => a.store p (String.ofList value)

/-- Whether what follows a hyphen is a negative number that the next operand may be. -/
def takesNumber (a : Arguments) (u : Usage) (text : List Char) : Bool :=
  (a.next? u).any Operand.negative && isNumber text

/-- Reads one argument. -/
def read (u : Usage) (a : Arguments) (argument : String) : Except Refusal Arguments :=
  if a.literal then a.operand u argument
  else if argument = "--" then .ok { a with literal := true }
  else
    match argument.toList with
    | '-' :: '-' :: text => if a.waiting.isSome then .error .misuse else a.byName u text
    | '-' :: c :: text =>
      if a.takesNumber u (c :: text) then a.plain u argument
      else if a.waiting.isSome then .error .misuse
      else a.byLetter u (c :: text)
    | _ => a.plain u argument

/-- Reads all arguments of a command. -/
def readAll (u : Usage) (arguments : List String) : Except Refusal Arguments := do
  let a ← arguments.foldlM (read u) empty
  if a.waiting.isSome ∨ a.operands.length < u.required then throw .misuse
  return a

/-- An operand, or what stands for it when it is missing. -/
def operandAt (a : Arguments) (u : Usage) (i : Nat) : String :=
  (a.operands[i]? <|> u.operands[i]?.bind Operand.fallback).getD ""

/-- The value of an option, or what stands for it when it is missing. -/
def value? (a : Arguments) (u : Usage) (name : String) : Option String :=
  a.values.lookup name <|> (u.named? name).bind Parameter.fallback

/-- The number that an option gives. -/
def number? (a : Arguments) (u : Usage) (name : String) : Option Nat := do
  let (kind, _) ← (← u.named? name).value
  kind.number? (← a.value? u name)

end Arguments

end Downlink.Console
