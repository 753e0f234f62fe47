import Downlink.Tool.Directive
import Downlink.Tool.Escape
import Downlink.Tool.Quoted

/-!
# Arguments under a format

A format is text with escapes and directives. Each directive takes the next argument, an empty one
or zero when none is left, and the format is used again as long as it takes arguments that are left.
An argument that is no number counts as far as it is one, and the tool fails at the end; a directive
that makes no sense ends the tool.
-/

namespace Downlink.Tool

/-- What a tool tells about a format and its arguments. -/
inductive Complaint where
  /-- An argument that is no number. -/
  | notNumeric (argument : Raw)
  /-- An argument with more behind its number. -/
  | notWholly (argument : Raw)
  | outOfRange (argument : Raw)
  | unknownDirective (text : Raw)
  /-- A directive that the end of the format cuts off. -/
  | unfinishedDirective
  /-- Arguments from this one on that the format does not take. -/
  | excess (argument : Raw)
  deriving DecidableEq, Repr

/-- The words of the tool of scripts. -/
def Complaint.message : Complaint → String
  | .notNumeric argument => String.ofList argument ++ ": expected numeric value"
  | .notWholly argument => String.ofList argument ++ ": not completely converted"
  | .outOfRange argument => String.ofList argument ++ ": Numerical result out of range"
  | .unknownDirective text => String.ofList text ++ ": invalid directive"
  | .unfinishedDirective => "missing format character"
  | .excess argument => String.ofList argument ++ ": unused"

/-- The words of the tool on its own. -/
def Complaint.messageAlone : Complaint → String
  | .notNumeric argument => s!"'{String.ofList argument}': expected a numeric value"
  | .notWholly argument => s!"'{String.ofList argument}': value not completely converted"
  | .outOfRange argument => s!"'{String.ofList argument}': Numerical result out of range"
  | .unknownDirective text => String.ofList text ++ ": invalid conversion specification"
  | .unfinishedDirective => "%: invalid conversion specification"
  | .excess argument =>
    s!"warning: ignoring excess arguments, starting with '{String.ofList argument}'"

/-- What a tool printed, what it told and its status. -/
structure Printed where
  output : Raw
  /-- The complaints in order, each with the length of the output in front of it. -/
  complaints : List (Nat × Complaint)
  status : Nat
  deriving DecidableEq, Repr

/-- The output with the complaints in their places. -/
def Printed.woven (p : Printed) (told : Complaint → Raw) : Raw :=
  let (text, done) := p.complaints.foldl (fun (text, done) c =>
    (text ++ (p.output.drop done).take (c.1 - done) ++ told c.2, c.1)) ([], 0)
  text ++ p.output.drop done

/-- The habits of a tool that prints under a format. -/
structure Dialect where
  format : Escapes
  argument : Escapes
  precision : Decimal.Precision
  flags : Raw
  /-- Letters before a conversion that have no meaning. -/
  modifiers : Raw
  /-- Whether flags that do not go with a conversion are a fault, and whether the conversions that
  replace escapes and add quotes take no flags, width and places. -/
  checked : Bool
  /-- The status after a directive that makes no sense. -/
  fault : Nat

/-- A pass over a format. -/
structure Pass where
  /-- What was printed, backwards. -/
  printed : Raw
  arguments : List Raw
  /-- How many arguments were taken. -/
  taken : Nat
  complaints : List (Nat × Complaint)

namespace Pass

/-- The pass with more output. -/
def print (s : Pass) (raw : Raw) : Pass := { s with printed := raw.reverse ++ s.printed }

/-- The next argument, and the pass without it. -/
def next (s : Pass) : Option Raw × Pass :=
  match s.arguments with
  | [] => (none, s)
  | first :: rest => (some first, { s with arguments := rest, taken := s.taken + 1 })

/-- The pass with another complaint. -/
def complain (s : Pass) (c : Complaint) : Pass :=
  { s with complaints := s.complaints ++ [(s.printed.length, c)] }

/-- The pass behind an argument that was read as a number. -/
def noted {α : Type} (s : Pass) (argument : Raw) (r : Reading α) : Pass :=
  if r.rest.isEmpty then if r.clamped then s.complain (.outOfRange argument) else s
  else if r.rest.length = argument.length then s.complain (.notNumeric argument)
  else s.complain (.notWholly argument)

end Pass

namespace Dialect

/-- The tool on its own. -/
def alone : Dialect :=
  { format := .format, argument := .argument, precision := Decimal.extended
    flags := "-+ #0'I".toList
    modifiers := "lLhjtz".toList, checked := true, fault := 1 }

/-- The tool of scripts. -/
def script : Dialect :=
  { format := .scriptFormat, argument := .scriptArgument, precision := Decimal.double
    flags := "#-+ 0".toList, modifiers := [], checked := false, fault := 2 }

/-! ### Reading arguments -/

/-- The character behind a quotation mark, whose number an argument stands for. -/
def quoted? (k : Dialect) : Raw → Option Nat
  | mark :: rest =>
    if mark ≠ '"' ∧ mark ≠ '\'' then none
    else
      match rest with
      | c :: _ => some c.toNat
      | [] => if k.checked then none else some 0
  | [] => none

/-- An argument read as a number; zero stands for one that is missing or empty. -/
def number {α : Type} (k : Dialect) (s : Pass) (ofNat : Nat → α) (read : Raw → Reading α) :
    α × Pass :=
  match s.next with
  | (none, s) => (ofNat 0, s)
  | (some raw, s) =>
    match k.quoted? raw with
    | some n => (ofNat n, s)
    | none => ((read raw).value, s.noted raw (read raw))

/-- The greatest width and number of places. -/
def sizeBound : Nat := twoTo 31

/-- Reads digits, or takes an argument for a star: the number, what stands behind it, and the pass.
Where a number that is too large is no fault, its low 32 bits count. -/
def size (k : Dialect) (text : Raw) (s : Pass) : Int × Raw × Pass :=
  match text with
  | '*' :: rest =>
    let (n, s) := k.number s Int.ofNat Numeral.signed
    (if k.checked then n else n.bmod (twoTo 32), rest, s)
  | _ =>
    let digits := text.takeWhile Char.isDigit
    ((Raw.value 10 digits : Nat), text.drop digits.length, s)

/-! ### Directives -/

/-- The conversions that go with flags and places. -/
def conversions (k : Dialect) (flags : Raw) (places : Bool) : Raw :=
  let all := "aAcdeEfFgGiosuxX".toList
  if !k.checked then 'b' :: all
  else all.filter fun c =>
    !(flags.any (fun f => f == '\'' || f == 'I') && "aAceEosxX".toList.contains c) &&
    !(flags.contains '#' && "cdisu".toList.contains c) &&
    !(flags.contains '0' && "cs".toList.contains c) && !(places && c == 'c')

/-- Reads a directive behind its percent sign: the directive, if it makes sense, what stands behind
it, and the pass without the arguments for stars. -/
def directive (k : Dialect) (text : Raw) (s : Pass) : Option (Directive × Raw) × Pass :=
  let flags := text.takeWhile k.flags.contains
  let (width, behind, s) := k.size (text.drop flags.length) s
  let (places, behind, s) : Option Int × Raw × Pass := match behind with
    | '.' :: behind =>
      let (places, behind, s) := k.size behind s
      (some places, behind, s)
    | behind => (none, behind, s)
  match behind.dropWhile k.modifiers.contains with
  | [] => (none, s.complain .unfinishedDirective)
  | conversion :: rest =>
    if !(k.conversions flags places.isSome).contains conversion || sizeBound ≤ width.natAbs ||
        (places.any fun n => decide ((sizeBound : Int) ≤ n)) then
      (none, s.complain (.unknownDirective ('%' :: text.take (text.length - rest.length))))
    else
      let d : Directive := {
        flags, left := flags.contains '-' || decide (width < 0), width := width.natAbs
        places := (places.filter (0 ≤ ·)).map Int.toNat, conversion }
      (some (d, rest), s)

/-- Writes the next argument under a directive. -/
def convert (k : Dialect) (d : Directive) (s : Pass) : Pass × Ending :=
  match d.conversion with
  | 's' =>
    let (raw, s) := s.next
    (s.print (d.text (raw.getD [])), .onward)
  | 'b' =>
    let (raw, s) := s.next
    let (out, ending) := k.argument.apply (raw.getD [])
    (s.print (d.text out), ending)
  | 'c' =>
    let (raw, s) := s.next
    (s.print (d.pad false [] [(raw.bind List.head?).getD '\x00']), .onward)
  | 'd' | 'i' =>
    let (n, s) := k.number s Int.ofNat Numeral.signed
    (s.print (d.integer n), .onward)
  | 'o' | 'u' | 'x' | 'X' =>
    let (n, s) := k.number s id Numeral.unsigned
    (s.print (d.word n), .onward)
  | _ =>
    let (x, s) := k.number s (fun n => ⟨false, .finite false n 0⟩) (Numeral.real k.precision)
    (s.print (d.real k.precision x), .onward)

/-! ### Formats -/

/-- A directive without flags, width and places. -/
def plainly (conversion : Char) : Directive := ⟨[], false, 0, none, conversion⟩

/-- Prints a format once; `fuel` bounds the number of its pieces. -/
def pass (k : Dialect) : Nat → Raw → Pass → Pass × Ending
  | 0, _, s => (s, .onward)
  | _ + 1, [], s => (s, .onward)
  | fuel + 1, c :: rest, s =>
    if c = '\\' then
      match k.format.read rest with
      | .stop => (s, .stopped)
      | .malformed => (s, .malformed)
      | .bytes raw taken =>
        -- an escape that is not known keeps a percent sign from being read
        match k.checked, taken, rest with
        | true, 0, next :: rest => k.pass fuel rest (s.print (raw ++ [next]))
        | _, _, _ => k.pass fuel (rest.drop taken) (s.print raw)
    else if c = '%' then
      match k.checked, rest with
      | _, '%' :: rest => k.pass fuel rest (s.print ['%'])
      | true, 'b' :: rest =>
        match k.convert (plainly 'b') s with
        | (s, .onward) => k.pass fuel rest s
        | ended => ended
      | true, 'q' :: rest =>
        let (raw, s) := s.next
        k.pass fuel rest (s.print ((raw.map Quoted.ofRaw).getD []))
      | _, _ =>
        match k.directive rest s with
        | (none, s) => (s, .malformed)
        | (some (d, rest), s) =>
          match k.convert d s with
          | (s, .onward) => k.pass fuel rest s
          | ended => ended
    else k.pass fuel rest (s.print [c])

/-- The status at the end. Where the end was asked for, a tool on its own forgets what failed. -/
def status (k : Dialect) (s : Pass) : Ending → Nat
  | .onward => if s.complaints.isEmpty then 0 else 1
  | .stopped => if s.complaints.isEmpty || k.checked then 0 else 1
  | .malformed => k.fault

/-- Prints a format until no arguments are left or it takes none, at most `fuel` times. -/
def repeatedly (k : Dialect) (format : Raw) : Nat → Pass → Printed
  | 0, s => ⟨s.printed.reverse, s.complaints, k.status s .onward⟩
  | fuel + 1, s =>
    match k.pass (format.length + 1) format s with
    | (after, .onward) =>
      if after.arguments.isEmpty || after.taken == s.taken then
        let told := match after.arguments with
          | first :: _ => if k.checked then after.complain (.excess first) else after
          | [] => after
        ⟨after.printed.reverse, told.complaints, k.status after .onward⟩
      else k.repeatedly format fuel after
    | (after, ending) => ⟨after.printed.reverse, after.complaints, k.status after ending⟩

/-- Prints arguments under a format. -/
def print (k : Dialect) (format : Raw) (arguments : List Raw) : Printed :=
  k.repeatedly format (arguments.length + 1) ⟨[], arguments, 0, []⟩

end Dialect

end Downlink.Tool
