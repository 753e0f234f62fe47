import Downlink.Tool.Format
import Downlink.Tool.Row
import Downlink.Tool.Script.Condition
import Downlink.Tool.Script.Field
import Downlink.Tool.Script.Grammar

/-!
# Built-in commands of a script

These commands are part of the tool that runs scripts. Some change the script itself; they are
special in that a fault in one of them ends the script, while other commands only fail.
-/

namespace Downlink.Tool.Script.Builtin

/-- What a command does to a script, or the fault that it finds. -/
abbrev Effect := Except String State

/-- A text as it is told. -/
def told (raw : Raw) : String := String.ofList raw

/-- The number that an argument is. -/
def number (raw : Raw) : Except String Nat :=
  match numberOf? raw with
  | some n => .ok n
  | none => .error ("Illegal number: " ++ told raw)

/-- The number that the first argument is, if there is one. -/
def firstNumber (fallback : Nat) : List Raw → Except String Nat
  | [] => .ok fallback
  | raw :: _ => number raw

/-- A positive count of loops. -/
def loopCount (arguments : List Raw) : Except String Nat := do
  match ← firstNumber 1 arguments with
  | 0 => .error ("Illegal number: " ++ told (arguments.headD []))
  | n => return n

/-- The arguments of a command that takes no options. -/
def withoutOptions : List Raw → Except String (List Raw)
  | ('-' :: c :: rest) :: arguments =>
    if c = '-' ∧ rest.isEmpty then .ok arguments else .error s!"Illegal option -{c}"
  | arguments => .ok arguments

/-! ### Printing -/

/-- Prints arguments under a format. -/
def printf (s : State) (arguments : List Raw) : Effect := do
  match ← withoutOptions arguments with
  | [] => throw "usage: printf format [arg ...]"
  | format :: arguments =>
    let r := Dialect.script.print format arguments
    let s := r.complaints.foldl (fun s c => s.tell ("printf: " ++ c.2.message)) s
    return s.print "printf" r.output r.status

/-! ### Signals -/

/-- What `kill` is asked for: the signal to send, or the words of signals to print. -/
inductive KillRequest where
  | send (signal : Nat)
  | list

/-- How `kill` is used. -/
def killUsage : String :=
  "Usage: kill [-s sigspec | -signum | -sigspec] [pid | job]... or\nkill -l [exitstatus]"

/-- The signal behind an option. -/
def signalOption (raw : Raw) : Except String KillRequest :=
  match Signal.ofWord? 1 raw with
  | some n => .ok (.send n)
  | none => .error ("invalid signal number or name: " ++ told raw)

/-- Reads the letters of an option of `kill`, and the option's argument if it has one. -/
def killLetters (request : Option KillRequest) (rest : List Raw) :
    Raw → Except String (Option KillRequest × List Raw)
  | [] => .ok (request, rest)
  | 'l' :: letters => killLetters (some .list) rest letters
  | 's' :: letters =>
    match letters, rest with
    | [], argument :: rest => do return (some (← signalOption argument), rest)
    | [], [] => .error "No arg for -s option"
    | letters, rest => do return (some (← signalOption letters), rest)
  | c :: _ => .error s!"Illegal option -{c}"

/-- Reads the options of `kill`; `fuel` bounds their number. -/
def killOptions : Nat → Option KillRequest → List Raw →
    Except String (Option KillRequest × List Raw)
  | 0, request, arguments => .ok (request, arguments)
  | fuel + 1, request, arguments =>
    match arguments with
    | ('-' :: c :: letters) :: rest =>
      if c = '-' ∧ letters.isEmpty then .ok (request, rest)
      else do
        let (request, rest) ← killLetters request rest (c :: letters)
        killOptions fuel request rest
    | _ => .ok (request, arguments)

/-- What `kill` is asked for, and its operands. -/
def killRequest (arguments : List Raw) : Except String (KillRequest × List Raw) := do
  let (request, operands) ← match arguments with
    | ('-' :: word) :: rest =>
      match Signal.ofWord? 1 word with
      | some n => pure (some (.send n), rest)
      | none => killOptions (arguments.length + 1) none arguments
    | _ => pure (none, arguments)
  return (request.getD (.send 15), operands)

/-- Sends a signal to one process. The process of the script is there, which zero stands for as
well, those of the scripts that have started it, and the first of all processes, which heeds no
signal. -/
def killOne (signal : Nat) (s : State) (raw : Raw) : Effect := do
  let (negative, digits) := match raw with
    | '-' :: digits => (true, digits)
    | digits => (false, digits)
  if digits.head? = some '%' then throw ("No such job: " ++ told raw)
  let n ← number digits
  if n = 0 ∨ n = s.number ∧ !negative then return s.receive signal
  else if s.above.contains n ∧ !negative then
    return { s with sentAbove := s.sentAbove ++ [(n, signal)] }
  else if n = 1 ∧ !negative then return s
  else return (s.tell "kill: No such process\n").withStatus 1

/-- Sends a signal to processes in order, up to a fault. What was sent before it stays sent. -/
def killAll (signal : Nat) : List Raw → State → State
  | [], s => s
  | raw :: rest, s =>
    match killOne signal s raw with
    | .ok after => if after.goesOn then killAll signal rest after else after
    | .error text => (s.tell ("kill: " ++ text)).withStatus 2

/-- The words of signals, one a line. -/
def signalLines : Raw :=
  (List.range Signal.bound).flatMap fun n =>
    (if n = 0 then ['0'] else (Signal.word n).toList) ++ ['\n']

/-- Sends signals or prints their words. -/
def kill (s : State) (arguments : List Raw) : Effect := do
  if arguments.isEmpty then throw killUsage
  match ← killRequest arguments with
  | (.list, []) => return s.print "kill" signalLines 0
  | (.list, first :: _) =>
    let n ← number first
    let n := if 128 < n then n - 128 else n
    if 0 < n ∧ n < Signal.bound then
      return s.print "kill" ((Signal.word n).toList ++ ['\n']) 0
    else throw ("invalid signal number or exit status: " ++ told first)
  | (.send _, []) => throw killUsage
  | (.send signal, operands) => return killAll signal operands (s.withStatus 0)

/-- Sets what is done on signals, up to a word that names none. -/
def setTraps (action : Option Raw) : List Raw → State → State
  | [], s => s
  | word :: rest, s =>
    match Signal.ofWord? 0 word with
    | some n =>
      let others := s.traps.filter fun t => t.1 != n
      setTraps action rest { s with traps := (action.map fun a => (n, a)).toList ++ others }
    | none => ((s.write? 2 s!"trap: {told word}: bad trap\n".toList).getD s).withStatus 1

/-- A text between single quotes, its apostrophes between double ones. -/
def quoted (raw : Raw) : Raw :=
  let between := fun run : Raw =>
    if run.head? = some '\'' then '"' :: run ++ ['"'] else '\'' :: run ++ ['\'']
  (if raw.head?.all (· == '\'') then "''".toList else []) ++
    (raw.splitBy fun a b => (a == '\'') == (b == '\'')).flatMap between

/-- What is done on signals, as commands that ask for it, one a line. -/
def trapLines (s : State) : Raw :=
  (List.range Signal.bound).flatMap fun n =>
    (s.traps.lookup n).elim [] fun action =>
      let word := if n = 0 then "EXIT" else Signal.word n
      "trap -- ".toList ++ quoted action ++ ' ' :: word.toList ++ ['\n']

/-- Sets what is done on signals; a number in the first place, or a single word, is a signal too. -/
def trap (s : State) (arguments : List Raw) : Effect := do
  let arguments ← match arguments with
    | ['-'] :: _ => pure arguments
    | _ => withoutOptions arguments
  let s := s.withStatus 0
  match arguments with
  | [] => return s.print "trap" (trapLines s) 0
  | action :: words =>
    if words.isEmpty ∨ (numberOf? action).isSome then return setTraps none arguments s
    else return setTraps (if action = ['-'] then none else some action) words s

/-! ### Variables and arguments -/

/-- A name and the value behind its equals sign. -/
def binding (raw : Raw) : Raw × Option Raw :=
  let name := raw.takeWhile (· != '=')
  (name, if name.length < raw.length then some (raw.drop (name.length + 1)) else none)

/-- Applies a change to variables that arguments name and may give values to. -/
def declare (s : State) (arguments : List Raw) (change : Variable → Variable) : Effect := do
  let arguments ← match arguments with
    | ['-', 'p'] :: rest => pure rest
    | arguments => withoutOptions arguments
  arguments.foldlM (fun s raw => do
    let (name, value) := binding raw
    if !Grammar.isName name then throw (told raw ++ ": bad variable name")
    let s := match value with
      | some value => s.assign name value
      | none => s
    let v := (s.variableOf? name).getD ⟨none, false, false⟩
    return if s.goesOn then s.put name (some (change v)) else s) (s.withStatus 0)

/-- Hides variables until a function returns. -/
def hide (s : State) (arguments : List Raw) : Effect := do
  if s.calls = 0 then throw "not in a function"
  arguments.foldlM (fun s raw => do
    let (name, value) := binding raw
    if !Grammar.isName name then throw (told raw ++ ": bad variable name")
    let s := { s with hidden := (name, s.variableOf? name) :: s.hidden }
    return match value with
      | some value => s.assign name value
      | none => s) (s.withStatus 0)

/-- Removes variables, or functions. -/
def unset (s : State) (arguments : List Raw) : Effect := do
  let (functions, names) ← match arguments with
    | ['-', 'f'] :: rest => pure (true, rest)
    | ['-', 'v'] :: rest => pure (false, rest)
    | arguments => do pure (false, ← withoutOptions arguments)
  names.foldlM (fun s name => do
    if functions then
      return { s with functions := s.functions.filter fun f => f.1 != name }
    let name := (binding name).1
    if !Grammar.isName name then throw (told name ++ ": bad variable name")
    else if (s.variableOf? name).any Variable.fixed then throw (told name ++ ": is read only")
    else return s.put name none) (s.withStatus 0)

/-- The options that have a name. -/
def optionNames : List (String × Char) :=
  [("errexit", 'e'), ("noglob", 'f'), ("ignoreeof", 'I'), ("interactive", 'i'), ("monitor", 'm'),
    ("noexec", 'n'), ("stdin", 's'), ("xtrace", 'x'), ("verbose", 'v'), ("vi", 'V'), ("emacs", 'E'),
    ("noclobber", 'C'), ("allexport", 'a'), ("notify", 'b'), ("nounset", 'u'), ("privileged", 'p'),
    -- these two have no letter
    ("nolog", '\x01'), ("debug", '\x02')]

/-- The options as they are printed, one a line. -/
def optionLines (s : State) : Raw :=
  "Current option settings\n".toList ++ optionNames.flatMap fun o =>
    o.1.toList ++ List.replicate (16 - o.1.length) ' ' ++
      (if s.has o.2 then "on\n" else "off\n").toList

/-- Sets or clears the options of one argument, and leaves the arguments behind it. -/
def setOptions (s : State) (on : Bool) (letters : Raw) (rest : List Raw) :
    Except String (State × List Raw) :=
  letters.foldlM (fun (s, rest) c => do
    if c = 'o' then
      match rest with
      | [] => return (if on then s.print "set" (optionLines s) 0 else s, [])
      | name :: rest =>
        match optionNames.lookup (told name) with
        | some c => return (s.setFlags on [c], rest)
        | none => throw ("Illegal option -o " ++ told name)
    else if optionNames.any (·.2 == c) then return (s.setFlags on [c], rest)
    else throw (s!"Illegal option -{c}")) (s, rest)

/-- Sets options and arguments; `fuel` bounds the number of options. -/
def set : Nat → State → List Raw → Effect
  | 0, s, _ => .ok s
  | fuel + 1, s, arguments =>
    match arguments with
    | [] => .ok s
    | ['-'] :: rest => if rest.isEmpty then .ok s else .ok { s with arguments := rest }
    | ['-', '-'] :: rest => .ok { s with arguments := rest }
    | ('-' :: letters) :: rest => do
      let (s, rest) ← setOptions s true letters rest
      set fuel s rest
    | ('+' :: letters) :: rest => do
      let (s, rest) ← setOptions s false letters rest
      set fuel s rest
    | arguments => .ok { s with arguments }

/-- Drops arguments of the script. -/
def shift (s : State) (arguments : List Raw) : Effect := do
  let n ← firstNumber 1 arguments
  if s.arguments.length < n then throw "can't shift that many"
  return { s with arguments := s.arguments.drop n, status := 0 }

/-! ### Reading -/

/-- The next line of a text without its end, whether it has one, and what stands behind it. A
backslash joins lines and takes the meaning of other characters unless the text is taken as it is;
its characters count as quoted. -/
def nextLine (asItIs : Bool) : Raw → List Atom × Bool × Raw
  | [] => ([], false, [])
  | '\n' :: rest => ([], true, rest)
  | '\\' :: c :: rest =>
    if asItIs then
      let (line, ended, behind) := nextLine asItIs (c :: rest)
      (.character '\\' .expanded :: line, ended, behind)
    else
      let (line, ended, behind) := nextLine asItIs rest
      (if c = '\n' then line else .character c .quoted :: line, ended, behind)
  | c :: rest =>
    let (line, ended, behind) := nextLine asItIs rest
    (.character c .expanded :: line, ended, behind)

/-- The atoms without blanks at either end. -/
def trimmed (atoms : List Atom) : List Atom :=
  let isBlank := fun a => a == .character ' ' .expanded || a == .character '\t' .expanded
  ((atoms.dropWhile isBlank).reverse.dropWhile isBlank).reverse

/-- The atoms of the first `n` fields and what stands behind them. -/
def fieldsOf (separators : Raw) (n : Nat) (atoms : List Atom) : List Raw :=
  match n with
  | 0 => []
  | 1 => [Atom.text (trimmed atoms)]
  | n + 1 =>
    let atoms := trimmed atoms
    let isSeparator := fun a =>
      match a with
      | .character c .expanded => separators.contains c
      | _ => false
    let field := atoms.takeWhile fun a => !isSeparator a
    Atom.text field :: fieldsOf separators n ((atoms.drop field.length).drop 1)

/-- Gives variables values in order, up to one that cannot have one. -/
def fill (s : State) (status : Nat) : List (Raw × Raw) → State
  | [] => s.withStatus status
  | (word, value) :: rest =>
    let name := (binding word).1
    let refused := fun why : String => (s.tell ("read: " ++ told word ++ why)).withStatus 2
    if !Grammar.isName name then refused ": bad variable name"
    else if (s.variableOf? name).any Variable.fixed then refused ": is read only"
    else fill (s.assign name value) status rest

/-- Reads a line into variables. -/
def read (s : State) (arguments : List Raw) : Effect := do
  let (asItIs, names) := match arguments with
    | ['-', 'r'] :: rest => (true, rest)
    | arguments => (false, arguments)
  if names.isEmpty then throw "arg count"
  let (line, ended, rest) := nextLine asItIs s.input
  let fields := fieldsOf s.separators names.length line
  return fill (s.leave rest) (if ended then 0 else 1) (names.zip fields)

/-! ### Conditions -/

/-- Tests a condition; what cannot be tested is a fault. -/
def test (s : State) (arguments : List Raw) : Effect := do
  return s.withStatus (if ← Condition.test s false arguments then 0 else 1)

/-- Tests a condition between brackets. -/
def bracket (s : State) (arguments : List Raw) : Effect :=
  if arguments.getLast? = some [']'] then test s arguments.dropLast else .error "missing ]"

/-! ### Control -/

/-- Leaves loops; nothing happens outside of them. -/
def leave (s : State) (flow : Nat → Flow) (arguments : List Raw) : Effect := do
  let n ← loopCount arguments
  let s := s.withStatus 0
  return if s.loops = 0 then s else { s with flow := flow (min n s.loops) }

/-- The status of a command in the background, by its number or, behind a percent sign, by its
place; without a place it is the last one. Nothing is known of numbers that no command has. -/
def job (s : State) (raw : Raw) : Except String (Option Nat) :=
  match raw with
  | '%' :: place =>
    let found := if place.isEmpty || place == ['%'] || place == ['+'] then s.background.head?
      else (numberOf? place).bind fun n => s.background.reverse[n - 1]?
    match found with
    | some entry => .ok (some entry.2)
    | none => .error ("No such job: " ++ told raw)
  | _ => do return s.background.lookup (← number raw)

/-- Waits for commands in the background; the status is that of the last one. -/
def wait (s : State) (arguments : List Raw) : Effect := do
  (← withoutOptions arguments).foldlM
    (fun s raw => do return s.withStatus ((← job s raw).getD 127)) (s.withStatus 0)

/-- The same where a number is no job. -/
def listed (s : State) (raw : Raw) : Except String (Option Nat) :=
  if raw.head? = some '%' then job s raw else .error ("No such job: " ++ told raw)

/-- Tells of jobs; the commands in the background have ended. -/
def jobs (s : State) (arguments : List Raw) : Effect := do
  let arguments ← match arguments with
    | ['-', 'l'] :: rest => pure rest
    | ['-', 'p'] :: rest => pure rest
    | arguments => withoutOptions arguments
  arguments.foldlM (fun s raw => do
    let _ ← listed s raw
    return s) (s.withStatus 0)

/-- Goes on with a job in the foreground, which asks for a terminal. -/
def resume (s : State) (arguments : List Raw) : Effect := do
  match arguments with
  | [] => throw "No current job"
  | first :: _ => do
    let _ ← listed s first
    throw s!"job {told first} not created under job control"

/-- Enters a directory, which only has to be there. -/
def enter (s : State) (arguments : List Raw) : Effect :=
  let path := arguments.head?.getD ((s.value? "HOME".toList).getD [])
  match if path.isEmpty then .directory else s.files.entry path.toText with
  | .directory => .ok (s.withStatus 0)
  | _ => .error ("can't cd to " ++ told path)

/-- The commands whose faults end the script. -/
def special : List (String × (State → List Raw → Effect)) := [
  (":", fun s _ => .ok (s.withStatus 0)),
  ("break", fun s a => leave s .breaking a),
  ("continue", fun s a => leave s .continuing a),
  ("exit", fun s a => do return s.exit (← firstNumber s.status a)),
  ("export", fun s a => declare s a fun v => { v with exported := true }),
  ("local", hide),
  ("readonly", fun s a => declare s a fun v => { v with fixed := true }),
  ("return", fun s a => do
    return { s with status := ← firstNumber s.status a, flow := .returning }),
  ("set", fun s a => set (a.length + 1) (s.withStatus 0) a),
  ("shift", shift),
  ("times", fun s _ =>
    let line := "0m0.000000s 0m0.000000s\n".toList
    .ok (s.print "times" (line ++ line) 0)),
  ("trap", trap),
  ("unset", unset)]

/-- The other commands. -/
def regular : List (String × (State → List Raw → Effect)) := [
  ("[", bracket),
  ("alias", fun s a => .ok (s.withStatus (if a.all (·.contains '=') then 0 else 1))),
  ("bg", resume),
  ("cd", enter),
  ("chdir", enter),
  ("echo", fun s a => .ok (s.print "echo" (Row.inScript a) 0)),
  ("false", fun s _ => .ok (s.withStatus 1)),
  ("fg", resume),
  ("jobs", jobs),
  ("kill", kill),
  ("printf", printf),
  ("pwd", fun s _ => .ok (s.print "pwd" ((s.value? "PWD".toList).getD [] ++ ['\n']) 0)),
  ("read", read),
  ("test", test),
  ("true", fun s _ => .ok (s.withStatus 0)),
  ("ulimit", fun s _ => .ok (s.print "ulimit" "unlimited\n".toList 0)),
  ("unalias", fun s a => .ok (s.withStatus (if a.isEmpty then 2 else 1))),
  ("umask", fun s a =>
    .ok (if a.isEmpty then s.print "umask" "0022\n".toList 0 else s.withStatus 0)),
  ("wait", wait)]

/-- Runs a command if there is one of the name. -/
def run? (s : State) (name : Raw) (arguments : List Raw) : Option State :=
  match special.lookup (String.ofList name), regular.lookup (String.ofList name) with
  | some effect, _ =>
    match effect s arguments with
    | .ok s => some s
    | .error text => some (s.tell (told name ++ ": " ++ text)).failed
  | none, some effect =>
    match effect s arguments with
    | .ok s => some s
    | .error text => some ((s.tell (told name ++ ": " ++ text)).withStatus 2)
  | none, none => none

/-- The commands whose arguments may be assignments. -/
def declaring : List String := ["alias", "export", "local", "readonly"]

/-- Whether a fault in a command ends the script. -/
def isSpecial (name : Raw) : Bool :=
  ([".", "eval", "exec"] ++ special.map Prod.fst).contains (String.ofList name)

/-- Whether there is another command of a name. -/
def isRegular (name : Raw) : Bool :=
  (["command", "hash", "type"] ++ regular.map Prod.fst).contains (String.ofList name)

/-- What a name is known as. -/
def kind? (s : State) (name : Raw) : Option String :=
  if Token.reserved.contains name then some "a shell keyword"
  else if (s.functions.lookup name).isSome then some "a shell function"
  else if isSpecial name then some "a special shell builtin"
  else if isRegular name then some "a shell builtin"
  else none

/-- The path that a name stands for: itself if it leads somewhere, or that of a program. -/
def path? (s : State) (name : Raw) : Option Raw :=
  if name.contains '/' then
    if (s.files.entry name.toText).occupied then some name else none
  else s.search? name

/-- Tells what names are known as, and fails if one is not. -/
def describe (s : State) (names : List Raw) : State :=
  names.foldl (fun s name =>
    match kind? s name, path? s name with
    | some kind, _ => s.print "type" (name ++ s!" is {kind}\n".toList) s.status
    | none, some path => s.print "type" (name ++ " is ".toList ++ path ++ ['\n']) s.status
    | none, none =>
      (s.print "type" (name ++ ": not found\n".toList) 0).withStatus 127) (s.withStatus 0)

/-- Looks commands up, and fails if one is not there. A path is not looked at. -/
def remember (s : State) (names : List Raw) : State :=
  match withoutOptions names with
  | .error _ => s.withStatus (if names = [['-', 'r']] then 0 else 2)
  | .ok names => names.foldl (fun s name =>
      let found := name.contains '/' || (path? s name).isSome ||
        ((kind? s name).isSome && !Token.reserved.contains name)
      if found then s else (s.tell s!"hash: {told name}: not found").withStatus 1)
    (s.withStatus 0)

end Downlink.Tool.Script.Builtin
