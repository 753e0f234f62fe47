import Downlink.Tool.Script.Interpreter

/-!
# Installed programs

Five programs can be started: two print their arguments, two do nothing and one runs scripts. They
are looked for by name, or followed to by a path; where a path leads to something else, or nowhere,
starting fails as it would on any system that has no other programs.
-/

namespace Downlink.Tool

/-- A program. -/
inductive Program where
  /-- Prints arguments in a row. -/
  | row
  /-- Prints arguments under a format. -/
  | format
  | success
  | failure
  /-- Runs scripts. -/
  | script
  deriving DecidableEq, Repr

namespace Program

/-- The names of programs. -/
def names : List (String × Program) :=
  [("echo", .row), ("printf", .format), ("true", .success), ("false", .failure), ("sh", .script),
    ("dash", .script)]

/-- The program at a path. -/
def at? (path : String) : Except SystemFault Program :=
  match Files.ofSystem.entry path with
  | .file _ =>
    match (Place.ofPath path).names.head?.bind fun name => names.lookup name with
    | some p => .ok p
    | none => .error .notFound
  | .directory => .error .denied
  | .nullDevice => .error .denied
  | .fullDevice => .error .denied
  | .absent => .error .notFound
  | .unreachable fault _ => .error fault

/-- Finds a program: what has a slash is a path, anything else is a name. Every directory has the
names of itself and of the one above it, which are no programs. -/
def find (name : String) : Except SystemFault Program :=
  if name.isEmpty ∨ name.toList.contains '/' then at? name
  else if Files.longestName < name.utf8ByteSize then .error .longName
  else if name = "." ∨ name = ".." then .error .denied
  else
    match names.lookup name with
    | some p => .ok p
    | none => .error .notFound

/-- The longest argument, in bytes. -/
def longestArgument : Nat := 131071

/-- What a program tells about itself when the only argument asks for it. -/
def about? (usage : String) (arguments : List Raw) : Option Raw :=
  match arguments with
  | [argument] =>
    if argument = "--help".toList then some ("Usage: " ++ usage ++ "\n").toList
    else if argument = "--version".toList then
      some (usage.toList.takeWhile (· != ' ') ++ " (tool set) 9.1\n".toList)
    else none
  | _ => none

/-- Prints arguments under the first of them; there has to be one. -/
def formatted (call : Call) : Process :=
  let name := String.ofList call.program
  let told := fun c : Complaint => s!"{name}: {c.messageAlone}\n".toList
  match if call.arguments.head? = some "--".toList then call.arguments.tail else call.arguments with
  | [] =>
    let told := s!"{name}: missing operand\nTry '{name} --help' for more information.\n".toList
    if call.merged then call.ended told 1 else { call.ended [] 1 with told }
  | template :: arguments =>
    let r := Dialect.alone.print template arguments
    if call.merged then call.ended (r.woven told) r.status
    else { call.ended r.output r.status with told := r.complaints.flatMap fun c => told c.2 }

/-- Runs a program; `start` starts the programs that a script calls. -/
def run (start : Starter) (p : Program) (call : Call) : Process :=
  let arguments := call.arguments
  match p with
  | .row =>
    let text := (about? "echo [SHORT-OPTION]... [STRING]..." arguments).getD (Row.alone arguments)
    call.ended text 0
  | .format =>
    match about? "printf FORMAT [ARGUMENT]..." arguments with
    | some text => call.ended text 0
    | none => formatted call
  | .success => call.ended ((about? "true [ignored command line arguments]" arguments).getD []) 0
  | .failure => call.ended ((about? "false [ignored command line arguments]" arguments).getD []) 1
  | .script => Script.Interpreter.run start call

/-- Starts a program; `depth` bounds how deeply scripts call one another. -/
def startWithin : Nat → Starter
  | 0, _ => .ok ⟨[], [], .unfinished, [], []⟩
  | depth + 1, call => do
    let p ← find call.program.toText
    if call.arguments.any fun a => longestArgument < a.length then throw .longArgument
    return run (startWithin depth) p call

/-- How deeply scripts call one another at most. -/
def deepest : Nat := 50

/-- Starts a program. -/
def start : Starter := startWithin deepest

end Program

end Downlink.Tool
