import Downlink.Sensor.Line
import Downlink.Sensor.SystemFile
import Downlink.Text.Utf8

/-!
# Reader commands

Hardware is read by commands outside the program. A command is a program and its arguments; when it
succeeds, the first line that it printed is its answer. One poll asks the power reader, looks up the
computer's temperature and asks the payload board. Only the power reader is indispensable.
-/

namespace Downlink

/-- A program and its arguments. -/
structure ReaderCommand where
  program : String
  arguments : List String
  deriving DecidableEq, Repr

namespace ReaderCommand

/-- Reads a command from words; a blank line names no program. -/
def ofLine (line : String) : Option ReaderCommand :=
  match Text.words line with
  | [] => none
  | program :: arguments => some { program, arguments }

end ReaderCommand

/-- What became of a command. -/
inductive CommandResult where
  | notStarted (fault : SystemFault)
  | failed (status : ExitStatus)
  | succeeded (output : List UInt8)
  /-- The command was still running when it was given up. -/
  | unfinished
  deriving DecidableEq, Repr

namespace Sensor

/-- The first line of an answer, empty when there is none. -/
def firstLine (output : List UInt8) : String :=
  String.ofList ((Text.linesOf (Text.decodeLossy output)).headD [])

/-- The answer of a command. -/
def answer (command : ReaderCommand) : CommandResult → Except Error String
  | .notStarted fault => .error (.sensor (.notStarted command.program fault))
  | .failed status => .error (.sensor (.exited command.program status))
  | .succeeded output => .ok (firstLine output)
  | .unfinished => .error (.sensor (.unfinished command.program))

/-- The battery voltage below which the spacecraft is in safe mode. -/
def safeModeVolts : Float32 := 3.5

/-- Readings with the values of the payload board, if it gave a valid answer. -/
def withPayload (r : Readings) (answer : Except Error String) : Readings :=
  match answer with
  | .error _ => r
  | .ok line =>
    match payloadLine line with
    | some sensor => { r with sensor, payloadValid := true }
    | none => r

/-- The readings of one poll: the answer of the power reader, the temperature of the computer, and
the answer of the payload board when there is one. -/
def poll (map : ChannelMap) (power : Except Error String) (temperature : Except Error Float32)
    (payload : Option (Except Error String)) : Except Error Readings := do
  let (voltage, current) := powerLine (← power)
  let r := { Readings.zero with voltage, current }
  let r := { r with safeMode := decide (r.batteryVoltage map < safeModeVolts) }
  let r := match temperature with
    | .ok t => r.withComputerTemperature t
    | .error _ => r
  return match payload with
    | some answer => withPayload r answer
    | none => r

end Sensor

end Downlink
