import Downlink.Sensor.Reader
import Downlink.Tool.Program

/-!
# Built-in reader commands

A command is run by whatever starts programs, and a poll goes by what became of it. The commands
that stand in for hardware print a line, succeed, fail or run a script: for these the built-in
programs are enough, and no other can be started.
-/

namespace Downlink.Sensor.Builtin

/-- What became of a command that was started. -/
def result (p : Tool.Process) : CommandResult :=
  match p.outcome with
  | .exited 0 => .succeeded p.output.bytes
  | .exited status => .failed (.code status)
  | .killed signal => .failed (.signal signal (Tool.Signal.report signal) false)
  | .unfinished => .unfinished

/-- Whether a text has a character that no argument has. -/
def hasNul (text : String) : Bool := text.toList.contains '\x00'

/-- Runs a command; `start` starts its program. -/
def runBy (start : Tool.Starter) (c : ReaderCommand) : CommandResult :=
  if (c.program :: c.arguments).any hasNul then .notStarted .nulInCommand
  else
    match start
      { program := .ofText c.program, arguments := c.arguments.map .ofText, environment := []
        ignored := [], input := [], merged := false, above := [] } with
    | .ok p => result p
    | .error fault => .notStarted fault

/-- Runs a command by the built-in programs. -/
def run : ReaderCommand → CommandResult := runBy Tool.Program.start

/-- The answer of a command. -/
def answer (c : ReaderCommand) : Except Error String := Sensor.answer c (run c)

end Downlink.Sensor.Builtin
