import Downlink.Tool.Numeral
import Downlink.Tool.Script.State

/-!
# Conditions in a script

A condition compares texts or integers, or asks about a text or a path. Conditions are negated, put
into brackets and joined; with up to four arguments their number decides what they mean.
-/

namespace Downlink.Tool.Script

/-- The integer that the whole of a text is; blanks may stand around it. -/
def integerOf? (raw : Raw) : Option Int :=
  let (negative, digits) := Numeral.splitSign raw
  let read := digits.takeWhile Char.isDigit
  let n : Int := Raw.value 10 read
  if read.isEmpty || !(digits.drop read.length).all Raw.isSpace then none
  else if twoTo 63 < n + (if negative then 0 else 1) then none
  else some (if negative then -n else n)

/-- The number that the whole of a text is, below `2 ^ 31` and with no minus sign but of zero. -/
def numberOf? (raw : Raw) : Option Nat :=
  (integerOf? raw).bind fun n => if 0 ≤ n ∧ n < twoTo 31 then some n.toNat else none

namespace Condition

/-- Why a condition cannot be tested. -/
abbrev Answer := Except String

/-- An integer in a condition. -/
def integer (raw : Raw) : Answer Int :=
  match integerOf? raw with
  | some n => .ok n
  | none => .error ("Illegal number: " ++ String.ofList raw)

/-- The marks between two operands. -/
def binaryMarks : List String :=
  ["=", "!=", "<", ">", "-eq", "-ne", "-ge", "-gt", "-le", "-lt", "-nt", "-ot", "-ef", "-a", "-o"]

/-- The marks in front of an operand. -/
def unaryMarks : List String :=
  ["-r", "-w", "-x", "-e", "-f", "-d", "-c", "-b", "-p", "-u", "-g", "-k", "-s", "-t", "-z", "-n",
    "-h", "-O", "-G", "-L", "-S"]

/-- Whether an operand is a mark. -/
def isOneOf (marks : List String) (raw : Raw) : Bool := marks.any (·.toList == raw)

/-- Compares two operands. -/
def compare (left : Raw) (mark : Raw) (right : Raw) : Answer Bool :=
  let integers := fun (holds : Int → Int → Bool) => do
    return holds (← integer left) (← integer right)
  match String.ofList mark with
  | "=" => .ok (left == right)
  | "!=" => .ok (left != right)
  | "<" => .ok (left < right)
  | ">" => .ok (right < left)
  | "-eq" => integers fun a b => a == b
  | "-ne" => integers fun a b => a != b
  | "-ge" => integers fun a b => b ≤ a
  | "-gt" => integers fun a b => b < a
  | "-le" => integers fun a b => a ≤ b
  | "-lt" => integers fun a b => a < b
  | "-a" => .ok (!left.isEmpty && !right.isEmpty)
  | "-o" => .ok (!left.isEmpty || !right.isEmpty)
  | _ => .ok false

/-- Asks about an operand. -/
def ask (s : State) (mark : Raw) (operand : Raw) : Answer Bool :=
  let entry := s.files.entry operand.toText
  match String.ofList mark with
  | "-n" => .ok (!operand.isEmpty)
  | "-z" => .ok operand.isEmpty
  | "-e" => .ok entry.occupied
  | "-r" => .ok entry.occupied
  | "-w" => .ok entry.occupied
  | "-O" => .ok entry.occupied
  | "-G" => .ok entry.occupied
  | "-f" => .ok (match entry with | .file _ => true | _ => false)
  | "-d" => .ok (match entry with | .directory => true | _ => false)
  | "-x" => .ok (match entry with
    | .directory => true
    | .file bytes => bytes == Files.programStart
    | _ => false)
  | "-c" => .ok (match entry with
    | .nullDevice => true
    | .fullDevice => true
    | _ => false)
  | "-s" => .ok (match entry with | .file bytes => 0 < bytes.size | _ => false)
  | "-t" => do
    let _ ← integer operand
    return false
  | _ => .ok false

/-! ### Reading -/

/-- What an argument is where a condition may start. -/
inductive Role where
  | ended
  | negation
  | opening
  | closing
  | unary
  | both
  | either
  | operand
  deriving DecidableEq, Repr

/-- Whether the argument behind a unary mark makes the mark an operand: there is none, or it is a
binary mark with something behind it. -/
def isComparedTo : List Raw → Bool
  | [] => true
  | [_] => false
  | mark :: _ => isOneOf (binaryMarks.take 13) mark

/-- The role of the first argument. -/
def role : List Raw → Role
  | [] => .ended
  | first :: rest =>
    if first = "!".toList then .negation
    else if first = "(".toList then (if rest.isEmpty then .operand else .opening)
    else if first = ")".toList then .closing
    else if first = "-a".toList then .both
    else if first = "-o".toList then .either
    else if isOneOf unaryMarks first ∧ !isComparedTo rest then .unary
    else .operand

/-- Reads a condition at the front of arguments with a role and leaves the arguments from its last
one on. -/
abbrev Reader := Role → List Raw → Answer (Bool × List Raw)

/-- Reads an operand, alone or compared to another. -/
def comparison (arguments : List Raw) : Answer (Bool × List Raw) :=
  let alone := .ok (arguments.head?.any fun raw => !raw.isEmpty, arguments)
  match arguments with
  | left :: mark :: rest =>
    if isOneOf (binaryMarks.take 13) mark then
      match rest with
      | right :: _ => do return (← compare left mark right, rest)
      | [] => .error (String.ofList mark ++ ": argument expected")
    else alone
  | _ => alone

/-- Reads one condition; `whole` reads what stands in brackets. -/
def primary (s : State) (whole : Reader) : Reader
  | .ended, arguments => .ok (false, arguments)
  | .opening, arguments => do
    let inside := arguments.drop 1
    if role inside = .closing then return (false, inside)
    let (holds, rest) ← whole (role inside) inside
    if role (rest.drop 1) = .closing then return (holds, rest.drop 1)
    else throw "closing paren expected"
  | .unary, arguments =>
    match arguments with
    | mark :: operand :: rest => do return (← ask s mark operand, operand :: rest)
    | _ => .error "argument expected"
  | _, arguments => comparison arguments

/-- Reads a condition behind any number of negations. -/
def negated (one : Reader) : Nat → Reader
  | 0, _, _ => .error "too many operands"
  | fuel + 1, r, arguments =>
    if r = .negation then do
      let next := arguments.drop 1
      let (holds, rest) ← negated one fuel (role next) (if next.isEmpty then arguments else next)
      return (!holds, rest)
    else one r arguments

/-- Reads conditions that have to hold together. -/
def all (one : Reader) : Nat → Reader
  | 0, _, _ => .error "too many operands"
  | fuel + 1, r, arguments => do
    let (holds, rest) ← one r arguments
    if role (rest.drop 1) = .both then
      let (more, rest) ← all one fuel (role (rest.drop 2)) (rest.drop 2)
      return (holds && more, rest)
    else return (holds, rest)

/-- Reads conditions of which one has to hold. -/
def any (one : Reader) : Nat → Reader
  | 0, _, _ => .error "too many operands"
  | fuel + 1, r, arguments => do
    let (holds, rest) ← all one (arguments.length + 1) r arguments
    if role (rest.drop 1) = .either then
      let (more, rest) ← any one fuel (role (rest.drop 2)) (rest.drop 2)
      return (holds || more, rest)
    else return (holds, rest)

/-- Reads a condition; `fuel` bounds how deeply brackets are nested. -/
def read (s : State) : Nat → Reader
  | 0, _, _ => .error "too many operands"
  | fuel + 1, r, arguments =>
    let one := negated (primary s (read s fuel)) (arguments.length + 1)
    any one (arguments.length + 1) r arguments

/-- Tests arguments that start in a role; nothing may be left. -/
def whole (s : State) (r : Role) (arguments : List Raw) : Answer Bool := do
  let (holds, rest) ← read s (arguments.length + 1) r arguments
  match rest with
  | last :: _ :: _ => throw (String.ofList last ++ ": unexpected operator")
  | _ => return holds

/-- Tests arguments, where `opposite` turns the answer around. Three or four arguments are looked at
as a whole first. -/
def test (s : State) (opposite : Bool) (arguments : List Raw) : Answer Bool := do
  let inOrder := fun (r : Role) (arguments : List Raw) => do
    return (← whole s r arguments) != opposite
  match arguments with
  | [] => return false
  | [left, mark, right] =>
    if isOneOf (binaryMarks.take 13) mark then inOrder .operand arguments
    else if left = "(".toList ∧ right = ")".toList then inOrder (role [mark]) [mark]
    else if left = "!".toList then
      return !(← whole s (role [mark, right]) [mark, right])
    else inOrder (role arguments) arguments
  | [first, b, c, last] =>
    if first = "(".toList ∧ last = ")".toList then inOrder (role [b, c]) [b, c]
    else if first = "!".toList then test s true [b, c, last]
    else inOrder (role arguments) arguments
  | arguments => inOrder (role arguments) arguments
  termination_by arguments.length

end Condition

end Downlink.Tool.Script
