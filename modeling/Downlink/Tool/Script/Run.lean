import Downlink.Tool.Script.Builtin
import Downlink.Tool.Script.Expansion
import Downlink.Tool.Script.Lexicon
import Downlink.Tool.Script.Redirecting

/-!
# Running a script

Each kind of command is run by a function that is given the function for the commands inside it, so
that one recursion on how deeply commands are nested ties them together. A script whose loops find no
end in the turns that are granted is told apart from one that ended.
-/

namespace Downlink.Tool.Script.Run

open Expansion

/-- How deeply the commands of a script may be nested. -/
def deepestCommand : Nat := 20000

/-- The signal that kills a script whose commands are nested more deeply. -/
def overflow : Nat := 11

/-- The turns that a loop is granted. -/
def granted : Nat := twoTo 40

/-! ### Scripts inside a script -/

/-- Runs the lines of a script, up to one that turns it aside. -/
def lines (run : Runner) : Nat → List Token → State → State
  | 0, _, s => s
  | fuel + 1, tokens, s =>
    match tokens with
    | [] => s
    | .newline :: rest => lines run fuel rest s
    | tokens =>
      match Grammar.line tokens with
      | none =>
        let position := (tokens.findSome? Token.position?).getD s.position
        { s with position }.fail "Syntax error"
      | some (command, rest) =>
        let after := run command s
        if after.goesOn then lines run fuel rest after else after

/-- Runs tokens as a script. -/
def script (run : Runner) (tokens : List Token) (s : State) : State :=
  lines run (tokens.length + 1) tokens s

/-- Runs a text that is met on the way. -/
def evaluate (run : Runner) (caller : String) (text : Raw) (s : State) : State :=
  let tokens := Lexicon.tokens text
  if tokens.all Token.isNewline then s.withStatus 0
  else { script run tokens { s with caller } with position := s.position, caller := s.caller }

/-- Does what is to be done on the signals that came. -/
def answerSignals (run : Runner) (s : State) : State :=
  let s' := { s with pending := [] }
  s.pending.foldl (fun s signal =>
    if s.goesOn then
      let after := evaluate run s.caller ((s.traps.lookup signal).getD []) s
      if after.goesOn then after.withStatus s.status else after
    else s) s'

/-- Does what is to be done at the end of a script. -/
def finish (run : Runner) (s : State) : State :=
  match s.flow with
  | .killed _ => s
  | .exhausted => s
  | _ =>
    match s.traps.lookup 0 with
    | none => s
    | some action =>
      let others := s.traps.filter fun t => t.1 != 0
      let after := evaluate run s.caller action { s with traps := others, flow := .onward }
      match after.flow with
      | .onward => { after with status := s.status, flow := s.flow }
      | _ => after

/-- Tells what killed a part of the script. -/
def reported (part s : State) : State :=
  match part.flow with
  | .killed signal => s.report signal
  | _ => s

/-- Runs a part of the script on its own, and goes on with streams. -/
def apart (run : Runner) (body : Command) (streams : List (Nat × Stream)) (s : State) : State :=
  let part := finish run (run body s.split)
  reported part { s.joined part with streams }

/-! ### Commands that are looked up -/

/-- The script behind a fault of a command: a special one ends it. -/
def faulted (special : Bool) (s : State) : State :=
  if special ∧ s.goesOn then s.exit s.status else s

/-- How deeply functions call one another at most. -/
def deepestCall : Nat := 1000

/-- Runs a function. -/
def call (run : Runner) (body : Command) (arguments : List Raw) (s : State) : State :=
  if deepestCall ≤ s.calls then
    s.fail s!"Maximum function recursion depth ({deepestCall}) reached"
  else
    let after := run body { s with arguments, hidden := [], calls := s.calls + 1 }
    let restored := after.hidden.foldl (fun s entry => s.put entry.1 entry.2) after
    { restored with
      arguments := s.arguments
      hidden := s.hidden
      calls := s.calls
      flow := if after.flow = .returning then .onward else after.flow }

/-- The variables that programs are started with. -/
def passed (s : State) : List (Raw × Raw) :=
  s.memory.filterMap fun entry =>
    if entry.2.exported then entry.2.value.map fun value => (entry.1, value) else none

/-- The script behind a program that did not start. -/
def unstarted (s : State) (program : Raw) (fault : SystemFault) : State :=
  let told := fun text => s.complain (String.ofList program ++ ": " ++ text)
  if !program.contains '/' ∨ [.notFound, .notDirectory, .longName].contains fault then
    (told "not found").withStatus 127
  else (told "Permission denied").withStatus 126

/-- Starts a program that is not part of the tool, and tells the signal that killed it, and whether
it started. A signal leaves a status above those of its own choice; a program that cannot print
fails. -/
def launch (start : Starter) (program : Raw) (arguments : List Raw) (s : State) :
    State × Option Nat × Bool :=
  let merged := s.stream? 1 == s.stream? 2
  let found := program.contains '/' || program.isEmpty || (s.search? program).isSome
  match if !found then .error .notFound else start
    { program, arguments, environment := passed s, ignored := s.unheeded, input := s.input, merged
      above := s.number :: s.above } with
  | .ok r =>
    let after := s.leave r.unread
    let after := (after.write? 2 r.told).getD after
    let after := after.overhear r.sent
    let printed := if r.output.isEmpty then some after else after.write? 1 r.output
    match r.outcome, printed with
    | .unfinished, _ => ({ s with flow := .exhausted }, none, true)
    | .killed signal, printed => ((printed.getD after).withStatus (128 + signal), some signal, true)
    | .exited status, some printed => (printed.withStatus status, none, true)
    | .exited _, none => (after.withStatus 1, none, true)
  | .error fault => (unstarted s program fault, none, false)

/-- Starts a program in place of the script, which shares its end. What is to be done at the end is
only done if no program starts. -/
def replaced (start : Starter) (s : State) : List Raw → State
  | [] => s.withStatus 0
  | [] :: _ => (unstarted { s with caller := "exec: " } [] .denied).exit 126
  | program :: arguments =>
    match launch start program arguments { s with caller := "exec: " } with
    | (after, some signal, _) => { after with flow := .killed signal }
    | (after, none, started) =>
      let after := if started then { after with traps := [] } else after
      if after.goesOn then after.exit after.status else after

/-- Runs the script in a file, found by a path. -/
def included (run : Runner) (s : State) : List Raw → State
  | [] => s.withStatus 0
  | path :: _ =>
    match if path.contains '/' then s.files.entry path.toText else .absent with
    | .file bytes => evaluate run ".: " (Raw.ofBytes bytes) s
    | .nullDevice => s.withStatus 0
    | .directory => s.withStatus 0
    | _ => (s.tell (if path.contains '/' then
        ".: cannot open " ++ String.ofList path ++ ": No such file"
      else ".: " ++ String.ofList path ++ ": not found")).failed

/-- Runs a command by its name; functions are looked for unless `plainly`. A fault in a command that
is called by another does not end the script. -/
def invoke (start : Starter) (run : Runner) :
    Nat → Bool → Raw → List Raw → State → State
  | 0, _, _, _, s => { s with flow := .exhausted }
  | fuel + 1, plainly, name, arguments, s =>
    match if plainly then none else s.functions.lookup name with
    | some body => call run body arguments s
    | none =>
      match String.ofList name with
      | "." => included run s arguments
      | "eval" => evaluate run "eval: " ([' '].intercalate arguments) s
      | "exec" => replaced start s arguments
      | "hash" => Builtin.remember s arguments
      | "type" => Builtin.describe s arguments
      | "command" =>
        let illegal := fun c => (s.tell s!"command: Illegal option -{c}").withStatus 2
        match arguments with
        | ['-', 'p'] :: name :: rest =>
          let path := "PATH".toList
          let after := invoke start run fuel true name rest
            (s.put path (State.environment.lookup path))
          (after.put path (s.variableOf? path)).forgiven
        | ['-', '-'] :: name :: rest => (invoke start run fuel true name rest s).forgiven
        | [['-', 'v']] => s.withStatus 0
        | [['-', 'V']] => s.withStatus 0
        | ['-', 'v'] :: ('-' :: c :: _) :: _ => illegal c
        | ['-', 'V'] :: ('-' :: c :: _) :: _ => illegal c
        | ['-', 'v'] :: name :: _ =>
          match Builtin.kind? s name, Builtin.path? s name with
          | some _, _ => s.print "command" (name ++ ['\n']) 0
          | none, some path => s.print "command" (path ++ ['\n']) 0
          | none, none => s.withStatus 127
        | ['-', 'V'] :: name :: _ => Builtin.describe s [name]
        | ('-' :: c :: _) :: _ => illegal c
        | name :: rest => (invoke start run fuel true name rest s).forgiven
        | [] => s.withStatus 0
      | _ =>
        (Builtin.run? s name arguments).getD (match launch start name arguments s with
          | (after, some signal, _) => after.report signal
          | (after, none, _) => after)

/-! ### Simple commands -/

/-- Makes assignments in order, up to a fault. -/
def assignAll (run : Runner) : List (Raw × Word) → State → State
  | [], s => s
  | (name, word) :: rest, s =>
    let (value, s) := valueText run word s
    if s.goesOn then
      let s := s.assign name value
      if s.goesOn then assignAll run rest s else s
    else s

/-- The script with some variables passed on to programs. -/
def exported (s : State) (assignments : List (Raw × Word)) : State :=
  assignments.foldl (fun s a => s.put a.1 ((s.variableOf? a.1).map ({ · with exported := true }))) s

/-- The variables that assignments change, as they are before. -/
def remembered (s : State) (assignments : List (Raw × Word)) : List (Raw × Option Variable) :=
  assignments.map fun a => (a.1, s.variableOf? a.1)

/-- Tells of a command before it runs, if an option asks for it. -/
def traced (s : State) (streams : List (Nat × Stream)) (assignments : List (Raw × Word))
    (fields : List Raw) : State :=
  if !s.has 'x' then s
  else
    let made := assignments.map fun a => a.1 ++ '=' :: (s.value? a.1).getD []
    let line := (s.value? "PS4".toList).getD [] ++ [' '].intercalate (made ++ fields) ++ ['\n']
    { ({ s with streams }.write? 2 line).getD s with streams := s.streams }

/-- Whether the fields at the start of a command name one that takes assignments. -/
def takesAssignments (s : State) : List Raw → Bool
  | [] => false
  | name :: rest =>
    let direct := fun name : Raw => Builtin.declaring.contains (String.ofList name)
    if name = "command".toList then (rest.find? fun r => r.head? != some '-').any direct
    else (s.functions.lookup name).isNone && direct name

/-- Runs a simple command. -/
def simple (start : Starter) (run : Runner) (position : Position) (assignments : List (Raw × Word))
    (words : List Word) (redirections : List Redirection) (s : State) : State :=
  let (fields, s) := fieldsAfter run (takesAssignments s) [] words
    { s with substituted := none, position }
  if !s.goesOn then s
  else
    let name := fields.headD []
    let function := (s.functions.lookup name).isSome
    let special := !fields.isEmpty && Builtin.isSpecial name && !function
    match Redirecting.applyAll run redirections s with
    | .error failed => faulted special { failed with streams := s.streams }
    | .ok redirected =>
      if fields.isEmpty then
        let after := assignAll run assignments redirected
        let after := if after.goesOn then traced after s.streams assignments [] else after
        let status := after.substituted.getD 0
        { if after.goesOn then after.withStatus status else after with streams := s.streams }
      else
        let before := remembered redirected assignments
        let inside := assignAll run assignments redirected
        if !inside.goesOn then { inside with streams := s.streams }
        else
          let inside := traced inside s.streams assignments fields
          let inside := if special then inside else exported inside assignments
          let after := invoke start run deepest false name fields.tail inside
          let after := if special then after
            else before.foldl (fun s entry => s.put entry.1 entry.2) after
          if name = "exec".toList ∧ fields.length = 1 then after
          else { after with streams := s.streams }

/-! ### Compound commands -/

/-- Runs the stages of a pipeline, each on its own and reading what the one before it prints. -/
def pipeline (run : Runner) : List Command → State → State
  | [], s => s
  | [last], s => apart run last s.streams s
  | stage :: rest, s =>
    let part := finish run (run stage s.split.capture)
    let after := s.joined { part with outputs := part.outputs.tail, status := s.status }
    if after.flow = s.flow then
      let after := pipeline run rest (after.supply 0 (part.outputs.headD []).reverse)
      reported part (after.connect 0 (s.stream? 0))
    else after

/-- The flow behind a turn of a loop, and whether the loop goes on. -/
def turned (s : State) : State × Bool :=
  match s.flow with
  | .onward => (s, true)
  | .breaking n => ({ s with flow := if n ≤ 1 then .onward else .breaking (n - 1) }, false)
  | .continuing n =>
    if n ≤ 1 then ({ s with flow := .onward }, true)
    else ({ s with flow := .continuing (n - 1) }, false)
  | _ => (s, false)

/-- Runs a command whose failure is only tested. -/
def tested (run : Runner) (c : Command) (s : State) : State :=
  { run c { s with tested := true } with tested := s.tested }

/-- Runs a body for each of several values. -/
def each (run : Runner) (name : Raw) (body : Command) : List Raw → State → State
  | [], s => s
  | value :: rest, s =>
    let s := s.assign name value
    if !s.goesOn then s
    else
      let (s, onward) := turned (run body s)
      if onward then each run name body rest s else s

/-- Runs a body as long as a test ends as asked for. The status is that of the last turn, zero in
front of the first; the steps bound the number of turns. -/
def loop (run : Runner) (untilSuccess : Bool) (test body : Command) :
    Nat → Nat → State → State
  | 0, _, s => { s with flow := .exhausted }
  | fuel + 1, status, s =>
    let (s, onward) := turned (tested run test s)
    if !onward then (if s.goesOn then s.withStatus status else s)
    else if (s.status = 0) = untilSuccess then s.withStatus status
    else
      let (s, onward) := turned (run body s)
      if onward then loop run untilSuccess test body fuel s.status s else s

/-- The body of the first branch that fits a value. -/
def branch? (run : Runner) (value : Raw) :
    List (List Word × Command) → State → Option Command × State
  | [], s => (none, s)
  | ([], _) :: more, s => branch? run value more s
  | (pattern :: patterns, body) :: more, s =>
    let (atoms, s) := unsplit run pattern s
    if !s.goesOn then (none, s)
    else if Pattern.fits (Pattern.read (Atom.marks atoms)) value then (some body, s)
    else branch? run value ((patterns, body) :: more) s
  termination_by branches => (branches.length, (branches.head?.elim 0 fun b => b.1.length))
  decreasing_by all_goals simp_wf; omega

/-- The script behind a command whose failure ends a script that asks for it. -/
def checkedFailure (s : State) : State :=
  if s.goesOn ∧ s.has 'e' ∧ !s.tested ∧ s.status ≠ 0 then s.exit s.status else s

/-- Runs a command, given how the commands inside it are run. -/
def step (start : Starter) (run : Runner) (c : Command) (s : State) : State :=
  match c with
  | .nothing => s
  | .simple position assignments words redirections =>
    simple start run position assignments words redirections s
  | .pipeline stages => pipeline run stages s
  | .negation body =>
    let after := tested run body s
    if after.goesOn then after.withStatus (if after.status = 0 then 1 else 0) else after
  | .both first second =>
    let after := tested run first s
    if after.goesOn ∧ after.status = 0 then run second after else after
  | .either first second =>
    let after := tested run first s
    if after.goesOn ∧ after.status ≠ 0 then run second after else after
  | .sequence first second =>
    let after := run first s
    if after.goesOn then run second after else after
  | .background body =>
    let after := apart run body s.streams (s.connect 0 (some .nowhere))
    let number := (s.background.head?.elim s.number Prod.fst) + 1
    let background := (number, after.status) :: s.background
    { after with background, status := 0 }
  | .subshell body => apart run body s.streams s
  | .redirected body redirections =>
    match Redirecting.applyAll run redirections s, body with
    | .error failed, _ => checkedFailure { failed with streams := s.streams }
    | .ok redirected, .subshell body => checkedFailure (apart run body s.streams redirected)
    | .ok redirected, _ => { run body redirected with streams := s.streams }
  | .choice test yes no =>
    let after := tested run test s
    if !after.goesOn then after
    else if after.status = 0 then run yes after
    else
      match no with
      | .nothing => after.withStatus 0
      | no => run no after
  | .loop untilSuccess test body =>
    let after := loop run untilSuccess test body granted 0 { s with loops := s.loops + 1 }
    { after with loops := s.loops }
  | .each name words body =>
    let (values, s) := match words with
      | some words => fields run words s
      | none => (s.arguments, s)
    if !s.goesOn then s
    else if values.isEmpty then s.withStatus 0
    else { each run name body values { s with loops := s.loops + 1 } with loops := s.loops }
  | .select word branches =>
    let (value, s) := text run word { s with substituted := none }
    if !s.goesOn then s
    else
      match branch? run value branches s with
      | (some .nothing, s) => s.withStatus 0
      | (some body, s) => run body s
      | (none, s) => if s.goesOn then s.withStatus 0 else s
  | .definition name body =>
    let others := s.functions.filter fun f => f.1 != name
    { s with functions := (name, body) :: others, status := 0 }

/-- Whether a failure of a command ends a script that asks for it. -/
def isChecked : Command → Bool
  | .simple _ _ _ _ => true
  | .pipeline _ => true
  | .subshell _ => true
  | _ => false

/-- Runs a command; `fuel` bounds how deeply commands are nested. -/
def command (start : Starter) : Nat → Runner
  | 0, _, s => { s with flow := .killed overflow }
  | fuel + 1, c, s =>
    let run := command start fuel
    let after := if s.has 'n' then s.withStatus 0 else step start run c s
    let after := if after.goesOn then answerSignals run after else after
    if isChecked c then checkedFailure after else after

/-- Runs a script to its end. -/
def toEnd (start : Starter) (text : Raw) (s : State) : State :=
  let run := command start deepestCommand
  finish run (script run (Lexicon.tokens text) s)

end Downlink.Tool.Script.Run
