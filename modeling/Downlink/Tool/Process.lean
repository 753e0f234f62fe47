import Downlink.Error
import Downlink.Text.Raw

/-!
# Processes

A program is started with arguments, variables and a text to read. It prints, and ends by itself or
by a signal.
-/

namespace Downlink.Tool

/-- How a process ended. -/
inductive Outcome where
  | exited (status : Nat)
  | killed (signal : Nat)
  /-- No end was found in the steps that were granted. -/
  | unfinished
  deriving DecidableEq, Repr

/-- What a process printed, what it told of faults, and how it ended. -/
structure Process where
  output : Raw
  told : Raw
  outcome : Outcome
  /-- The signals that it sent to others, by their numbers. -/
  sent : List (Nat × Nat)
  /-- What it left of the text to read. -/
  unread : Raw
  deriving DecidableEq, Repr

/-- What a program is started with. -/
structure Call where
  /-- The name or the path of the program. -/
  program : Raw
  arguments : List Raw
  environment : List (Raw × Raw)
  /-- The signals that it is told to ignore. -/
  ignored : List Nat
  /-- What the program reads. -/
  input : Raw
  /-- Whether what it tells goes where it prints. -/
  merged : Bool
  /-- The numbers of the scripts that have started it, the nearest first. -/
  above : List Nat
  deriving DecidableEq, Repr

/-- A process that printed something without reading and ended by itself. -/
def Call.ended (c : Call) (output : Raw) (status : Nat) : Process :=
  ⟨output, [], .exited status, [], c.input⟩

/-- What starts programs. -/
abbrev Starter := Call → Except SystemFault Process

end Downlink.Tool
