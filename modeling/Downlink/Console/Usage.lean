import Downlink.Decimal.Reading
import Downlink.Power
import Downlink.Telemetry.Channel

/-!
# What a command takes

A command takes operands in a fixed order, and options by name or letter in any order. An option is
a flag or has a value. The same description serves to read the arguments and to explain them.
-/

namespace Downlink.Console

/-- How the text of a value is read. -/
inductive ValueKind where
  | text
  /-- Any text but the empty one. -/
  | path
  /-- A number below `2 ^ 64`. -/
  | natural
  /-- A number of at most 64 bits that has to lie below a bound. -/
  | below (bound : Nat)
  /-- A signed number of 64 bits. -/
  | integer
  | board
  deriving DecidableEq, Repr

/-- Reads a number below a bound. -/
def below? (bound : Nat) (text : String) : Option Nat :=
  (Decimal.signed? (twoTo 63) text).bind fun n =>
    if 0 ≤ n ∧ n < bound then some n.toNat else none

/-- Whether a text is a value of a kind. -/
def ValueKind.accepts (kind : ValueKind) (value : String) : Bool :=
  match kind with
  | .text => true
  | .path => !value.isEmpty
  | .natural => (Decimal.unsigned? (twoTo 64) value).isSome
  | .below bound => (below? bound value).isSome
  | .integer => (Decimal.signed? (twoTo 63) value).isSome
  | .board => (Board.ofName? value).isSome

/-- The number that a text gives under a kind of numbers from zero up. -/
def ValueKind.number? (kind : ValueKind) (value : String) : Option Nat :=
  match kind with
  | .natural => Decimal.unsigned? (twoTo 64) value
  | .below bound => below? bound value
  | _ => none

/-- An argument that has its place in the order of arguments. -/
structure Operand where
  label : String
  kind : ValueKind
  /-- Whether a number with a minus sign is a value rather than an option. -/
  negative : Bool
  purpose : String
  /-- The value that stands for a missing one, if it may be missing. -/
  fallback : Option String
  deriving DecidableEq, Repr

/-- An argument that is given by name. -/
structure Parameter where
  name : String
  letter : Option Char
  /-- The kind of its value and the word for it; a flag has none. -/
  value : Option (ValueKind × String)
  purpose : String
  /-- The value that stands for a missing one. -/
  fallback : Option String
  deriving DecidableEq, Repr

/-- What a command takes. -/
structure Usage where
  name : String
  purpose : String
  operands : List Operand
  parameters : List Parameter
  deriving DecidableEq, Repr

namespace Usage

/-- The parameter with a name. -/
def named? (u : Usage) (name : String) : Option Parameter :=
  u.parameters.find? fun p => p.name = name

/-- The parameter with a letter. -/
def lettered? (u : Usage) (letter : Char) : Option Parameter :=
  u.parameters.find? fun p => p.letter = some letter

/-- How many operands have to be there. -/
def required (u : Usage) : Nat := u.operands.countP fun o => o.fallback.isNone

/-! ### The commands -/

/-- The seed of simulated telemetry. -/
def seed (fallback : Option String) : Parameter :=
  { name := "seed", letter := none, value := some (.natural, "SEED")
    purpose := "Seed for simulated telemetry", fallback }

/-- Transmits cycles. -/
def run : Usage :=
  { name := "run"
    purpose := "Transmit telemetry cycles to the RF pipeline"
    operands := [
      { label := "MODE", kind := .text, negative := false, fallback := some "f"
        purpose := "Mode: f (FSK), b (BPSK), a (AFSK), c (CW)" },
      { label := "LOOPS", kind := .integer, negative := true, fallback := some "-1"
        purpose := "Number of cycles, -1 for forever" }]
    parameters := [
      { name := "no-cw-id", letter := none, value := none, fallback := none
        purpose := "Skip the Morse identification at start" },
      { name := "config", letter := some 'c', value := some (.path, "CONFIG")
        purpose := "Station config file", fallback := some "sim.cfg" },
      { name := "board", letter := some 'b', value := some (.board, "BOARD")
        purpose := "Sensor board revision", fallback := some "standard" },
      { name := "power-cmd", letter := none, value := some (.text, "COMMAND"), fallback := none
        purpose := "Command printing \"v i v i ...\" power readings; simulated when absent" },
      { name := "payload-cmd", letter := none, value := some (.text, "COMMAND"), fallback := none
        purpose := "Command answering the payload query with \"OK ...\"" },
      { name := "addr", letter := some 'a', value := some (.text, "ADDR")
        purpose := "Address of the PCM sink", fallback := some "127.0.0.1:8080" },
      { name := "frames", letter := some 'f', value := some (.natural, "FRAMES")
        purpose := "Frames per cycle", fallback := some "1" },
      { name := "text-out", letter := none, value := some (.path, "PATH"), fallback := none
        purpose := "File receiving AFSK packet text for the packet generator" },
      seed none] }

/-- Encodes cycles into a file. -/
def encode : Usage :=
  { name := "encode"
    purpose := "Encode simulated telemetry frames to a WAV file"
    operands := [
      { label := "MODE", kind := .text, negative := false, fallback := none
        purpose := "Mode: f (FSK), b (BPSK), c (CW)" },
      { label := "OUTPUT.WAV", kind := .path, negative := false, fallback := none
        purpose := "Output WAV file" }]
    parameters := [
      { name := "cycles", letter := some 'c', value := some (.natural, "CYCLES")
        purpose := "Number of cycles to encode", fallback := some "1" },
      { name := "cw-id", letter := none, value := none, fallback := none
        purpose := "Prepend the Morse identification" },
      { name := "callsign", letter := none, value := some (.text, "CALLSIGN"), fallback := none
        purpose := "Callsign used for identification and text modes" },
      seed none] }

/-- Shows the stages of a frame. -/
def inspect : Usage :=
  { name := "inspect"
    purpose := "Print the encoding stages of one frame as JSON"
    operands := [
      { label := "MODE", kind := .text, negative := false, fallback := some "f"
        purpose := "Mode: f (FSK) or b (BPSK)" }]
    parameters := [
      { name := "reset-count", letter := none, value := some (.below (twoTo 16), "RESET_COUNT")
        purpose := "Reset count carried in the header", fallback := some "0" },
      { name := "uptime", letter := none, value := some (.below (twoTo 32), "UPTIME")
        purpose := "Uptime carried in the header, seconds", fallback := some "0" },
      { name := "frame", letter := none, value := some (.natural, "FRAME"), fallback := some "1"
        purpose := "Frame number within the session, selects MIN/MAX frames" },
      seed (some "1")] }

/-- The commands by the order in which they are explained. -/
def all : List Usage := [run, encode, inspect]

/-- The command with a name. -/
def ofName? (name : String) : Option Usage := all.find? fun u => u.name = name

end Usage

end Downlink.Console
