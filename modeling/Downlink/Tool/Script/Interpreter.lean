import Downlink.Tool.Script.Run

/-!
# The program that runs scripts

A script is given as an argument, as a file or as the text to read. Options come first; an option
letter asks for the script to be an argument, the others are options of the script.
-/

namespace Downlink.Tool.Script.Interpreter

/-- What the options of a call ask for. -/
structure Request where
  /-- The script with the options set. -/
  state : State
  /-- Whether the script is an argument. -/
  given : Bool
  rest : List Raw

/-- Reads the letters of one argument. -/
def letters (on : Bool) (r : Request) : Raw → Except String Request
  | [] => .ok r
  | 'c' :: more => letters on { r with given := true } more
  | 'l' :: more => letters on r more
  | c :: more => do
    let (state, rest) ← Builtin.setOptions r.state on [c] r.rest
    letters on { r with state, rest } more

/-- Reads options up to the first other argument; `fuel` bounds their number. -/
def options : Nat → Request → Except String Request
  | 0, r => .ok r
  | fuel + 1, r =>
    match r.rest with
    | [] => .ok r
    | ['-'] :: rest => .ok { r with rest }
    | ['-', '-'] :: rest => .ok { r with rest }
    | ('-' :: more) :: rest => do options fuel (← letters true { r with rest } more)
    | ('+' :: more) :: rest => do options fuel (← letters false { r with rest } more)
    | _ => .ok r

/-- The script at its start, with what the caller passes on. -/
def opened (call : Call) : State :=
  let passed := call.environment.map fun v => (v.1, (⟨some v.2, true, false⟩ : Variable))
  let parent := call.above.head?.map fun n => ("PPID".toList, ⟨some (Raw.ofNat n), false, false⟩)
  let passed := parent.toList ++ passed
  let kept := State.environment.filter fun v => !passed.any (·.1 == v.1)
  { State.start call.program [] [] call.input call.merged with
    memory := passed ++ kept, ignored := call.ignored, above := call.above
    number := State.firstNumber + 1000 * call.above.length }

/-- Runs the text that there is to read, of which nothing is left. -/
def runInput (start : Starter) (s : State) : State := Run.toEnd start s.input (s.leave [])

/-- Runs the script of a file. -/
def runFile (start : Starter) (path : Raw) (s : State) : State :=
  match s.files.entry path.toText with
  | .file bytes => Run.toEnd start (Raw.ofBytes bytes) { s with zeroth := path }
  | .directory => s
  | .nullDevice => s
  | _ => s.fail ("cannot open " ++ String.ofList path ++ ": No such file")

/-- Runs what a request asks for. -/
def serve (start : Starter) (r : Request) : State :=
  match r.given, r.rest with
  | true, [] => r.state.fail "-c requires an argument"
  | true, [text] => Run.toEnd start text r.state
  | true, text :: zeroth :: arguments =>
    Run.toEnd start text { r.state with zeroth, arguments }
  | false, [] => runInput start r.state
  | false, path :: arguments =>
    if r.state.has 's' then runInput start { r.state with arguments := path :: arguments }
    else runFile start path { r.state with arguments }

/-- Runs a script; `start` starts the programs that it calls. -/
def run (start : Starter) (call : Call) : Process :=
  let s := opened call
  (match options (call.arguments.length + 1) ⟨s, false, call.arguments⟩ with
  | .ok r => serve start r
  | .error text => s.fail text).process

end Downlink.Tool.Script.Interpreter
