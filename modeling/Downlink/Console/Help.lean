import Downlink.Console.Usage

/-!
# Explaining commands

The explanation of a command lists its operands and options in two columns, the second as far to the
right as the longest entry of the first needs.
-/

namespace Downlink.Console.Help

/-- Fills with blanks on the right up to a width. -/
def padRight (width : Nat) (text : String) : String :=
  text ++ String.ofList (List.replicate (width - text.length) ' ')

/-- Rows of two columns. -/
def table (rows : List (String × String)) : List String :=
  let width := (rows.map fun row => row.1.length).foldl max 0
  rows.map fun row => "  " ++ padRight width row.1 ++ "  " ++ row.2

/-- A purpose and what stands for a missing value. -/
def purposeText (purpose : String) (fallback : Option String) : String :=
  match fallback with
  | some value => purpose ++ " [default: " ++ value ++ "]"
  | none => purpose

/-- An operand in brackets that show whether it may be missing. -/
def operandText (o : Operand) : String :=
  if o.fallback.isSome then "[" ++ o.label ++ "]" else "<" ++ o.label ++ ">"

/-- An option with its letter and the word for its value. -/
def parameterText (p : Parameter) : String :=
  (match p.letter with
    | some c => "-" ++ String.singleton c ++ ", --"
    | none => "    --") ++ p.name ++
  match p.value with
  | some (_, label) => " <" ++ label ++ ">"
  | none => ""

/-- The values among which a kind chooses. -/
def choices : ValueKind → String
  | .board => " [possible values: " ++ ", ".intercalate (Board.names.map Prod.fst) ++ "]"
  | _ => ""

/-- The option that explains. -/
def helpRow : String × String := ("-h, --help", "Print help")

/-- The row of an option. -/
def parameterRow (p : Parameter) : String × String :=
  (parameterText p, purposeText p.purpose p.fallback ++ (p.value.elim "" fun v => choices v.1))

/-- The explanation of a command of a program. -/
def command (program : String) (u : Usage) : List String :=
  [u.purpose, "",
    " ".intercalate (["Usage:", program, u.name, "[OPTIONS]"] ++ u.operands.map operandText), "",
    "Arguments:"] ++
  table (u.operands.map fun o => (operandText o, purposeText o.purpose o.fallback)) ++
  ["", "Options:"] ++ table (u.parameters.map parameterRow ++ [helpRow])

/-- What the command that explains is for. -/
def purpose : String := "Print this message or the help of the given subcommand(s)"

/-- The explanation of the command that explains. -/
def itself (program : String) : List String :=
  [purpose, "", "Usage: " ++ program ++ " help [COMMAND]...", "", "Arguments:"] ++
  table [("[COMMAND]...", "Print help for the subcommand(s)")]

/-- The explanation of a program. -/
def overview (program : String) : List String :=
  ["Spacecraft telemetry encoder: FEC, 8b10b and FSK/BPSK modulation", "",
    "Usage: " ++ program ++ " <COMMAND>", "", "Commands:"] ++
  table (Usage.all.map (fun u => (u.name, u.purpose)) ++ [("help", purpose)]) ++
  ["", "Options:"] ++ table [helpRow]

end Downlink.Console.Help
