import Downlink.Storage.Files
import Downlink.Tool.Process
import Downlink.Tool.Script.Command
import Downlink.Tool.Signal

/-!
# A script between two commands

A script has variables, arguments, open streams and a status, and goes on from command to command
until something turns it aside: a loop that is left, a function that returns, an end, a signal.
-/

namespace Downlink.Tool.Script

/-- What a descriptor leads to. -/
inductive Stream where
  /-- What the script prints, what it tells, or what a substitution around the command takes: the
  outputs are counted from the script's own on. -/
  | output (level : Nat)
  /-- Nothing is read, and all that is written vanishes. -/
  | nowhere
  /-- A text that is read, by its place among those that were opened. -/
  | source (number : Nat)
  /-- Nothing that is written finds room. -/
  | full
  | file (path : String)
  deriving DecidableEq, Repr

/-- What a script does next. -/
inductive Flow where
  | onward
  /-- Leaves loops. -/
  | breaking (loops : Nat)
  /-- Leaves loops but the last, which goes on with its next turn. -/
  | continuing (loops : Nat)
  | returning
  | exiting
  /-- Exits because of a fault, unless the command that has it is called on sufferance. -/
  | failing
  | killed (signal : Nat)
  /-- No end was found in the steps that were granted. -/
  | exhausted
  deriving DecidableEq, Repr

/-- A variable; one without a value has only been declared. -/
structure Variable where
  value : Option Raw
  exported : Bool
  fixed : Bool
  deriving DecidableEq, Repr

/-- A script between two commands. -/
structure State where
  /-- The name of the script and its arguments. -/
  zeroth : Raw
  arguments : List Raw
  /-- The variables by name. -/
  memory : List (Raw × Variable)
  /-- The variables that a function hides, as they were before. -/
  hidden : List (Raw × Option Variable)
  functions : List (Raw × Command)
  /-- The letters of the options that are set. -/
  flags : Raw
  streams : List (Nat × Stream)
  /-- What is still to be read of each text that was opened, whoever reads it. -/
  sources : List Raw
  /-- What was written to each output, backwards; what the script told and printed is at the end. -/
  outputs : List Raw
  files : Files
  status : Nat
  /-- The status of the last substitution in the current command. -/
  substituted : Option Nat
  flow : Flow
  /-- Loops and functions around the current command. -/
  loops : Nat
  calls : Nat
  /-- Whether a failure is only tested. -/
  tested : Bool
  /-- What to do on a signal, nothing for one that is ignored. Zero stands for the end. -/
  traps : List (Nat × Raw)
  pending : List Nat
  /-- Whether this is a part of the script that runs on its own, and the signals that it sent to the
  whole. -/
  isPart : Bool
  sent : List Nat
  number : Nat
  /-- The numbers of the scripts that have started this one, the nearest first, and the signals that
  it sent them. -/
  above : List Nat
  sentAbove : List (Nat × Nat)
  /-- The commands in the background and their statuses, the last one first. -/
  background : List (Nat × Nat)
  /-- The signals that whoever started the script ignores. -/
  ignored : List Nat
  /-- The place of the command, and the one that has called it in words of its own. -/
  position : Position
  caller : String

namespace State

/-- The number of the process that runs a script. -/
def firstNumber : Nat := 4000

/-- The variables that a script starts with. -/
def environment : List (Raw × Variable) :=
  [("HOME", "/root"), ("IFS", " \t\n"), ("OPTIND", "1"),
    ("PATH", "/usr/local/sbin:/usr/local/bin:/usr/sbin:/usr/bin:/sbin:/bin"), ("PPID", "1"),
    ("PS1", "# "), ("PS2", "> "), ("PS4", "+ "), ("PWD", "/")].map
    fun v => (v.1.toList, ⟨some v.2.toList, v.1 == "HOME" || v.1 == "PATH" || v.1 == "PWD", false⟩)

/-- A script at its start. -/
def start (zeroth : Raw) (arguments : List Raw) (flags : Raw) (input : Raw) (merged : Bool) :
    State :=
  { zeroth, arguments, memory := environment, hidden := [], functions := [], flags
    streams := [(0, .source 0), (1, .output 0), (2, .output (if merged then 0 else 1))]
    sources := [input], outputs := [[], []], files := .ofSystem
    status := 0, substituted := none, flow := .onward, loops := 0, calls := 0, tested := false
    traps := [], pending := [], isPart := false, sent := []
    number := firstNumber, above := [], sentAbove := [], background := [], ignored := []
    position := ⟨0, []⟩, caller := "" }

/-- Whether the next command runs. -/
def goesOn (s : State) : Bool := s.flow == .onward

/-- The script with a status. -/
def withStatus (s : State) (status : Nat) : State := { s with status }

/-- Ends the script with a status. -/
def exit (s : State) (status : Nat) : State := { s with status, flow := .exiting }

/-- The letters of options in the order in which they are told. -/
def flagLetters : Raw := "pubaCEVvxsnmiIfe".toList

@[simp] theorem goesOn_withStatus (s : State) (status : Nat) :
    (s.withStatus status).goesOn = s.goesOn := rfl

@[simp] theorem goesOn_exit (s : State) (status : Nat) : (s.exit status).goesOn = false := rfl

/-- Whether an option is set. -/
def has (s : State) (flag : Char) : Bool := s.flags.contains flag

/-- Sets or clears options. -/
def setFlags (s : State) (on : Bool) (letters : Raw) : State :=
  let others := s.flags.filter fun c => !letters.contains c
  { s with flags := if on then others ++ letters else others }

/-! ### Streams -/

/-- What a descriptor leads to. -/
def stream? (s : State) (descriptor : Nat) : Option Stream := s.streams.lookup descriptor

/-- Lets a descriptor lead somewhere, or nowhere at all. -/
def connect (s : State) (descriptor : Nat) (stream : Option Stream) : State :=
  let others := s.streams.filter fun entry => entry.1 != descriptor
  { s with streams := (stream.map fun stream => (descriptor, stream)).toList ++ others }

/-- Lets a descriptor lead to a text that is read from its start. -/
def supply (s : State) (descriptor : Nat) (text : Raw) : State :=
  { s with sources := s.sources ++ [text] }.connect descriptor (some (.source s.sources.length))

/-- What is still to be read on the first descriptor. -/
def input (s : State) : Raw :=
  match s.stream? 0 with
  | some (.source number) => s.sources.getD number []
  | _ => []

/-- Leaves a text to be read on the first descriptor. -/
def leave (s : State) (rest : Raw) : State :=
  match s.stream? 0 with
  | some (.source number) => { s with sources := s.sources.set number rest }
  | _ => s

@[simp] theorem stream?_connect (s : State) (descriptor : Nat) (stream : Stream) :
    (s.connect descriptor (some stream)).stream? descriptor = some stream := by
  simp [connect, stream?]

/-- What is supplied is there to be read. -/
@[simp] theorem input_supply (s : State) (text : Raw) : (s.supply 0 text).input = text := by
  rw [input, supply, stream?_connect]
  simp [connect]

/-- What is left is what is read next. -/
theorem input_leave_supply (s : State) (text rest : Raw) :
    ((s.supply 0 text).leave rest).input = rest := by
  rw [leave, supply, stream?_connect]
  simp [input, connect, stream?]

/-- Adds to the file at a path. -/
def extend (s : State) (path : String) (raw : Raw) : State :=
  let held := (s.files.bytes? path).getD .empty
  { s with files := s.files.put path (.file (held ++ ⟨raw.bytes.toArray⟩)) }

/-- Writes to a descriptor; nothing if it cannot be written to. -/
def write? (s : State) (descriptor : Nat) (raw : Raw) : Option State :=
  match s.stream? descriptor with
  | some (.output level) =>
    some { s with outputs := s.outputs.modify (s.outputs.length - 1 - level) (raw.reverse ++ ·) }
  | some .nowhere => some s
  | some (.file path) => some (s.extend path raw)
  | some (.source _) => none
  | some .full => none
  | none => none

/-- Tells of a fault, with a character for each byte. -/
def tell (s : State) (text : String) : State :=
  (s.write? 2 (s.zeroth ++ (s!": {s.position.line}: " ++ text ++ "\n").toList)).getD s

/-- Tells of a fault and who has it. -/
def complain (s : State) (text : String) : State := s.tell (s.caller ++ text)

/-- The script with an output of its own for what is printed next. -/
def capture (s : State) : State :=
  { s with outputs := [] :: s.outputs }.connect 1 (some (.output s.outputs.length))

/-- Tells what killed a program, apart from the signals that are expected to. -/
def report (s : State) (signal : Nat) : State :=
  if signal = 2 ∨ signal = 13 then s
  else (s.write? 2 (Signal.description signal ++ "\n").toList).getD s

/-- Prints what a command says, and fails if nothing can be printed. -/
def print (s : State) (name : String) (raw : Raw) (status : Nat) : State :=
  if raw.isEmpty then s.withStatus status
  else
    match s.write? 1 raw with
    | some s => s.withStatus status
    | none =>
      (s.tell s!"{name}: {name}: I/O error").withStatus 1

/-- Ends the script because of a fault that has been told. -/
def failed (s : State) : State := { s with status := 2, flow := .failing }

/-- Tells of a fault and ends the script. -/
def fail (s : State) (text : String) : State := (s.complain text).failed

/-- Goes on behind a fault, whose status stays. -/
def forgiven (s : State) : State := if s.flow = .failing then { s with flow := .onward } else s

/-! ### Variables -/

/-- A variable. -/
def variableOf? (s : State) (name : Raw) : Option Variable := s.memory.lookup name

/-- The value of a variable. -/
def value? (s : State) (name : Raw) : Option Raw := (s.variableOf? name).bind Variable.value

/-- Puts a variable, or its absence, in place of what is there. -/
def put (s : State) (name : Raw) (v : Option Variable) : State :=
  let others := s.memory.filter fun entry => entry.1 != name
  { s with memory := (v.map fun v => (name, v)).toList ++ others }

/-- Gives a variable a value. -/
def assign (s : State) (name : Raw) (value : Raw) : State :=
  match s.variableOf? name with
  | some v =>
    if v.fixed then s.fail (String.ofList name ++ ": is read only")
    else s.put name (some { v with value := some value })
  | none => s.put name (some ⟨some value, s.has 'a', false⟩)

/-- The first path of a program of a name in the directories that are searched. -/
def search? (s : State) (name : Raw) : Option Raw :=
  (s.value? "PATH".toList).bind fun directories =>
    ((Raw.pieces ':' directories).map fun d => if d.isEmpty then name else d ++ '/' :: name).find?
      fun path => (s.files.bytes? path.toText).isSome

/-- What splits fields. -/
def separators (s : State) : Raw := (s.value? "IFS".toList).getD " \t\n".toList

/-- The value of a parameter. -/
def parameter? (s : State) (name : Raw) : Option Raw :=
  match name with
  | ['?'] => some (Raw.ofNat s.status)
  | ['#'] => some (Raw.ofNat s.arguments.length)
  | ['$'] => some (Raw.ofNat s.number)
  | ['!'] => s.background.head?.map fun b => Raw.ofNat b.1
  | ['-'] => some (flagLetters.filter s.has)
  | _ =>
    if !name.isEmpty && name.all Char.isDigit then
      match Raw.value 10 name with
      | 0 => some s.zeroth
      | n + 1 => s.arguments[n]?
    else s.value? name

/-! ### Signals -/

/-- The signals that are ignored. Those that are ignored from the start stay so. -/
def unheeded (s : State) : List Nat :=
  s.ignored ++ (s.traps.filter fun t => t.2.isEmpty && t.1 != 0).map Prod.fst

/-- Meets a signal. -/
def meet (s : State) (signal : Nat) : State :=
  if s.ignored.contains signal then s
  else if let .killed _ := s.flow then s
  else match if Signal.isCatchable signal then s.traps.lookup signal else none with
  | some action =>
    if action.isEmpty ∨ signal = 0 then s else { s with pending := s.pending ++ [signal] }
  | none => if Signal.isHarmless signal then s else { s with flow := .killed signal }

/-- Sends a signal to the script. A part of it passes the signal on to the whole and goes on. -/
def receive (s : State) (signal : Nat) : State :=
  if s.isPart then { s with sent := s.sent ++ [signal] } else s.meet signal

/-- Hears what a program sent to scripts by their numbers. -/
def overhear (s : State) (sent : List (Nat × Nat)) : State :=
  sent.foldl (fun s entry =>
    if entry.1 = s.number then s.receive entry.2
    else { s with sentAbove := s.sentAbove ++ [entry] }) s

/-! ### Parts -/

/-- The script as a part of it starts that runs on its own. -/
def split (s : State) : State :=
  { s with
    traps := s.traps.filter (·.2.isEmpty), pending := [], isPart := true, sent := [], loops := 0 }

/-- The script behind a part of it that ran on its own: what the part printed and its status stay,
and the signals that it sent arrive. -/
def joined (s part : State) : State :=
  let after := { s with
    outputs := part.outputs
    sources := part.sources
    files := part.files
    sentAbove := part.sentAbove
    status := match part.flow with
      | .killed signal => 128 + signal
      | _ => part.status % 256
    flow := if part.flow = .exhausted then .exhausted else s.flow }
  part.sent.foldl receive after

theorem flow_joined_exit (s part : State) (h : part.flow = .exiting) (none : part.sent = []) :
    (s.joined part).flow = s.flow := by
  simp [joined, h, none]

/-- The process of a script that has ended. -/
def process (s : State) : Process :=
  let written := s.outputs.reverse.map List.reverse
  ⟨written.headD [], written.tail.headD [], match s.flow with
    | .killed signal => .killed signal
    | .exhausted => .unfinished
    | _ => .exited (s.status % 256), s.sentAbove, s.sources.headD []⟩

end State

end Downlink.Tool.Script
