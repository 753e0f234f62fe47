import Downlink.Console.Arguments
import Downlink.Console.Encode
import Downlink.Console.Help
import Downlink.Console.Inspect
import Downlink.Console.Run
import Downlink.Power

/-!
# The program

Arguments lead to a command or to an explanation. A misuse ends with code 2 and prints nothing, a
failure of a command with code 1.
-/

namespace Downlink.Console

/-- What arguments ask for. -/
inductive Request where
  | run (options : RunOptions)
  | encode (options : EncodeOptions)
  | inspect (options : InspectOptions)
  | explain (lines : List String)
  | misuse

namespace Request

/-- The seed among arguments. -/
def seed? (a : Arguments) (u : Usage) : Option UInt64 := (a.number? u "seed").map UInt64.ofNat

/-- The mode among arguments. -/
def mode (a : Arguments) (u : Usage) : Mode := .ofSelector (a.operandAt u 0)

/-- The options of a run. -/
def runOptions (a : Arguments) : RunOptions :=
  let u := Usage.run
  { mode := mode a u
    loops := (Decimal.signed? (twoTo 63) (a.operandAt u 1)).getD (-1)
    identifies := !a.has "no-cw-id"
    stationFile := (a.value? u "config").getD ""
    board := ((a.value? u "board").bind Board.ofName?).getD .standard
    powerCommand := a.value? u "power-cmd"
    payloadCommand := a.value? u "payload-cmd"
    address := (a.value? u "addr").getD ""
    framesPerCycle := (a.number? u "frames").getD 1
    packetFile := a.value? u "text-out"
    seed := seed? a u }

/-- The options of encoding. -/
def encodeOptions (a : Arguments) : EncodeOptions :=
  let u := Usage.encode
  { mode := mode a u
    output := a.operandAt u 1
    cycles := (a.number? u "cycles").getD 1
    identifies := a.has "cw-id"
    callsign := a.value? u "callsign"
    seed := seed? a u }

/-- The options of showing a frame. -/
def inspectOptions (a : Arguments) : InspectOptions :=
  let u := Usage.inspect
  { mode := mode a u
    resetCount := UInt16.ofNat ((a.number? u "reset-count").getD 0)
    uptime := UInt32.ofNat ((a.number? u "uptime").getD 0)
    frame := (a.number? u "frame").getD 1
    seed := (seed? a u).getD 1 }

/-- The request of a command with arguments. -/
def ofUsage (program : String) (u : Usage) (arguments : List String)
    (request : Arguments → Request) : Request :=
  match Arguments.readAll u arguments with
  | .ok a => request a
  | .error .help => .explain (Help.command program u)
  | .error .misuse => .misuse

/-- The request to explain what the arguments name. -/
def explained (program : String) : List String → Request
  | [] => .explain (Help.overview program)
  | ["help"] => .explain (Help.itself program)
  | [name] => ((Usage.ofName? name).map (Help.command program)).elim .misuse .explain
  | _ => .misuse

/-- Whether an argument in front of any command asks for an explanation. -/
def asksForHelp (argument : String) : Bool :=
  argument = "--help" || "-h".toList.isPrefixOf argument.toList

/-- What arguments ask for. -/
def ofArguments (program : String) : List String → Request
  | [] => .misuse
  | "run" :: rest => ofUsage program .run rest fun a => .run (runOptions a)
  | "encode" :: rest => ofUsage program .encode rest fun a => .encode (encodeOptions a)
  | "inspect" :: rest => ofUsage program .inspect rest fun a => .inspect (inspectOptions a)
  | "help" :: names => explained program names
  | argument :: _ => if asksForHelp argument then .explain (Help.overview program) else .misuse

/-- Does what was asked for; a run without end is followed for `limit` cycles. -/
def perform (limit : Nat) (c : Conditions) : Request → Command Unit
  | .run o => transmit limit o c
  | .encode o => encodeToFile o c
  | .inspect o => inspectFrame o
  | .explain lines => lines.forM print
  | .misuse => pure ()

end Request

/-- What is left of a command when it has ended. -/
structure Outcome where
  code : Nat
  /-- What it did, in order. -/
  deeds : List Deed
  files : Files
  complaint : Option Complaint

namespace Outcome

/-- The lines that were printed. -/
def lines (o : Outcome) : List String :=
  o.deeds.filterMap fun deed =>
    match deed with
    | .print line => some line
    | .write _ _ => none

/-- The lines that were printed, as a text. -/
def text (o : Outcome) : String := String.join (o.lines.map fun line => line ++ "\n")

end Outcome

/-- Runs a computation to its end. -/
def outcome (files : Files) (action : Command Unit) : Outcome :=
  match action.run.run { files, deeds := [] } with
  | (.ok (), desk) =>
    { code := 0, deeds := desk.deeds.reverse, files := desk.files, complaint := none }
  | (.error complaint, desk) =>
    { code := 1, deeds := desk.deeds.reverse, files := desk.files, complaint := some complaint }

/-- Runs a program on arguments; a run without end is followed for `limit` cycles. -/
def execute (program : String) (limit : Nat) (c : Conditions) (files : Files)
    (arguments : List String) : Outcome :=
  match Request.ofArguments program arguments with
  | .misuse => { code := 2, deeds := [], files, complaint := none }
  | request => outcome files (request.perform limit c)

end Downlink.Console
