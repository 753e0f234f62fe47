import Downlink.Tool.Script.Expansion

/-!
# Redirections

A redirection lets a descriptor lead to a file or to where another descriptor leads. A file that is
written to is emptied or made first. What cannot be opened is told, and the command does not run.
-/

namespace Downlink.Tool.Script.Redirecting

open Expansion

/-- What is told about a fault; a path that leads nowhere is told in the words of the tool. -/
def told (missing : String) : Error → String
  | .storage .notFound => missing
  | .storage .notDirectory => missing
  | .storage .isDirectory => "Is a directory"
  | .storage fault => fault.message
  | e => e.message

/-- A script in which a path cannot be opened. -/
def refuse (s : State) (what : String) (target : Raw) (missing : String) (e : Error) :
    Except State State :=
  .error ((s.complain
    ("cannot " ++ what ++ " " ++ String.ofList target ++ ": " ++ told missing e)).withStatus 2)

/-- The stream of a path that an entry was found at. -/
def streamOf (path : String) : Entry → Stream
  | .nullDevice => .nowhere
  | .fullDevice => .full
  | _ => .file path

/-- Opens a path to read it. -/
def openInput (s : State) (descriptor : Nat) (target : Raw) : Except State State :=
  match (s.files.entry target.toText).read with
  | .ok bytes =>
    .ok (s.supply descriptor (Raw.ofBytes bytes))
  | .error (.storage .isDirectory) => .ok (s.connect descriptor (some .nowhere))
  | .error e => refuse s "open" target "No such file" e

/-- Opens a path to write to it; what it held is kept if asked for. -/
def openOutput (s : State) (descriptor : Nat) (keep : Bool) (target : Raw) : Except State State :=
  let path := target.toText
  let entry := s.files.entry path
  match entry.write (if keep then (s.files.bytes? path).getD .empty else .empty) with
  | (.ok (), after) =>
    let s := match after with
      | .file bytes => { s with files := s.files.put path (.file bytes) }
      | _ => s
    .ok (s.connect descriptor (some (streamOf path after)))
  | (.error e, _) => refuse s "create" target "Directory nonexistent" e

/-- The descriptor that a path stands for. -/
def descriptorOf? (path : String) : Option Nat :=
  [("/dev/stdin", 0), ("/dev/stdout", 1), ("/dev/stderr", 2), ("/dev/fd/0", 0), ("/dev/fd/1", 1),
    ("/dev/fd/2", 2)].lookup path

/-- Copies or closes a descriptor. -/
def copy (s : State) (descriptor : Nat) (target : Raw) : Except State State :=
  match target with
  | ['-'] => .ok (s.connect descriptor none)
  | [c] =>
    if c.isDigit then
      match s.stream? (Raw.digitValue c) with
      | some stream => .ok (s.connect descriptor (some stream))
      | none =>
        .error ((s.complain (String.ofList target ++ ": Bad file descriptor")).withStatus 2)
    else .error (s.fail "Bad fd number")
  | _ => .error (s.fail "Bad fd number")

/-- Applies a redirection whose target has been expanded. -/
def apply (s : State) (descriptor : Nat) (direction : Direction) (target : Raw) :
    Except State State :=
  match direction, descriptorOf? (String.ofList target) with
  | .copy, _ => copy s descriptor target
  | .document, _ => .ok (s.supply descriptor target)
  | _, some other => copy s descriptor (Raw.ofNat other)
  | .input, none => openInput s descriptor target
  | .output, none => openOutput s descriptor false target
  | .append, none => openOutput s descriptor true target
  | .both, none => openOutput s descriptor true target

/-- Applies redirections in order, up to one that fails. -/
def applyAll (run : Runner) : List Redirection → State → Except State State
  | [], s => .ok s
  | .mk descriptor direction target :: rest, s => do
    let (target, s) := text run target s
    if !s.goesOn then throw s
    applyAll run rest (← apply s descriptor direction target)

end Downlink.Tool.Script.Redirecting
