import Downlink.Session
import Downlink.Storage.Files

/-!
# What a command does

A command prints lines and writes files, and may fail. Both are noted in order, so that a command is
a function of the files it sees and of the conditions under which it runs. What it did before it
failed stays done.
-/

namespace Downlink.Console

/-- Why a command failed. -/
inductive Complaint where
  | program (e : Error)
  /-- The command of the power reader is blank. -/
  | noReader
  /-- The mode has its sound from elsewhere. -/
  | externalSound
  /-- The mode sends text rather than frames. -/
  | noFrames (mode : Mode)

def Complaint.message : Complaint → String
  | .program e => e.message
  | .noReader => "empty power reader command"
  | .externalSound => "AFSK audio comes from the packet generator; use `run a --text-out`"
  | .noFrames mode => mode.name ++ " mode has no binary frames"

/-- Something a command did. -/
inductive Deed where
  | print (line : String)
  | write (path : String) (bytes : ByteArray)

/-- The files as they are now and what was done, the latest first. -/
structure Desk where
  files : Files
  deeds : List Deed

/-- A computation that prints and writes, and may fail. -/
abbrev Command := ExceptT Complaint (StateM Desk)

/-- Prints a line. -/
def print (line : String) : Command Unit :=
  modify fun desk => { desk with deeds := .print line :: desk.deeds }

/-- Fails for a reason within the program. -/
def orFail {α : Type} (answer : Except Error α) : Command α :=
  match answer with
  | .ok x => pure x
  | .error e => throw (.program e)

/-- Notes what a path leads to when an operation has written to it. -/
def Desk.written (desk : Desk) (files : Files) (path : String) : Desk :=
  match files.bytes? path with
  | some bytes => { files, deeds := .write path bytes :: desk.deeds }
  | none => { desk with files }

/-- Runs an operation that writes a file. -/
def onFile {α : Type} (path : String) (operation : Entry → Except Error α × Entry) :
    Command α := do
  let desk ← get
  let (answer, files) := desk.files.update path operation
  let x ← orFail answer
  set (desk.written files path)
  return x

end Downlink.Console
