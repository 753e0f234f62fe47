import Downlink.Sensor.Reader
import Downlink.Session
import Downlink.Simulation

/-!
# Conditions and sources

A command runs under conditions: the clock, the files of the machine, what reader commands answer
and what becomes of attempts to send. Under conditions a source of readings answers every poll.
-/

namespace Downlink.Console

/-- What the machine answers while a command runs. -/
structure Conditions where
  /-- Seconds from the start to the `k`-th poll. -/
  clock : Nat → Float
  temperature : Entry
  uptime : Entry
  /-- The seed of what no option seeds. -/
  entropy : UInt64
  reader : ReaderCommand → CommandResult
  /-- What becomes of an attempt to reach the receiver, and of one to send to it. -/
  dialled : Option SystemFault
  sent : Option SystemFault

namespace Conditions

/-- The answer of a reader. -/
def answer (c : Conditions) (command : ReaderCommand) : Except Error String :=
  Sensor.answer command (c.reader command)

/-- What stands around the `k`-th poll. -/
def frame (c : Conditions) (k : Nat) (poll : Except Error Readings) : FrameInput :=
  { poll
    uptime := Sensor.uptime "/proc/uptime" c.uptime
    elapsed := (c.clock k).toUInt32 }

end Conditions

/-- Where readings come from. -/
inductive Source where
  | simulated (simulation : Simulation)
  | readers (board : Board) (power : ReaderCommand) (payload : Option ReaderCommand)

namespace Source

/-- One poll of reader commands. -/
def pollReaders (c : Conditions) (board : Board) (power : ReaderCommand)
    (payload : Option ReaderCommand) : Except Error Readings :=
  Sensor.poll board.map (c.answer power)
    (Sensor.temperature "/sys/class/thermal/thermal_zone0/temp" c.temperature)
    (payload.map c.answer)

/-- The answers to `n` polls from the `first` on, by number, and the source behind them. -/
def polls (s : Source) (c : Conditions) (first n : Nat) : (Nat → FrameInput) × Source :=
  match s with
  | .simulated simulation =>
    let (readings, simulation) := simulation.steps ((List.range n).map fun k => c.clock (first + k))
    let readings := readings.toArray
    (fun k => c.frame k (.ok (readings.getD (k - first) .zero)), .simulated simulation)
  | .readers board power payload => (fun k => c.frame k (pollReaders c board power payload), s)

end Source

end Downlink.Console
