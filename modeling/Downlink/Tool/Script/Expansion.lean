import Downlink.Tool.Script.Arithmetic
import Downlink.Tool.Script.Field
import Downlink.Tool.Script.State

/-!
# Expanding words

Parameters, substitutions and arithmetic are replaced by their values, which may change variables
and may find faults. Commands are run by a function that is given.
-/

namespace Downlink.Tool.Script.Expansion

/-- Runs a command. -/
abbrev Runner := Command → State → State

/-- What atoms come out of, and the script behind it. The flag says whether the atoms will be split
into fields. -/
abbrev Expander := Bool → Word → State → List Atom × State

/-- The output of commands without line feeds at its end, and the script behind them. The status of
the commands does not count until the command is done in which they stand. -/
def substitute (run : Runner) (body : Command) (s : State) : Raw × State :=
  let part := run (.subshell body) { s.capture with tested := false }
  let text := ((part.outputs.headD []).dropWhile (· == '\n')).reverse.filter (· != '\x00')
  (text, { part with
    outputs := part.outputs.tail
    streams := s.streams
    tested := s.tested
    status := s.status
    substituted := some part.status
    flow := if part.flow = .exiting then s.flow else part.flow })

/-- The origin of the characters that an expansion gives. -/
def originOf (quoted : Bool) : Origin := if quoted then .quoted else .expanded

/-- A value as atoms; quotes keep an empty one. -/
def valueAtoms (quoted : Bool) (raw : Raw) : List Atom :=
  (if quoted then [.quotes] else []) ++ Atom.ofRaw (originOf quoted) raw

/-- Whether a name stands for all arguments. -/
def isAll (name : Raw) : Bool := name = ['@'] || name = ['*']

/-- The value of a parameter, where all arguments are joined by blanks. -/
def value? (s : State) (name : Raw) : Option Raw :=
  if isAll name then some ([' '].intercalate s.arguments) else s.parameter? name

/-- The text of a parameter: a star in quotes joins all arguments by the first separator, and so
does what is not split; otherwise a character that no argument has stands between them. -/
def joinedValue (s : State) (splits quoted : Bool) (name : Raw) : Raw :=
  if isAll name then
    (if !splits ∨ quoted ∧ name = ['*'] then s.separators.take 1 else ['\x00']).intercalate
      s.arguments
  else (s.parameter? name).getD []

/-- The text of a parameter as atoms, in which arguments are fields of their own. -/
def parameterAtoms (s : State) (quoted : Bool) (name : Raw) (joined : Raw) : List Atom :=
  if isAll name ∧ s.arguments.isEmpty then (if quoted ∧ name = ['*'] then [.quotes] else [])
  else [Atom.boundary].intercalate ((Raw.pieces '\x00' joined).map (valueAtoms quoted))

/-- The value of a parameter as atoms. -/
def held (s : State) (splits quoted : Bool) (name : Raw) : List Atom :=
  parameterAtoms s quoted name (joinedValue s splits quoted name)

/-- The script if a parameter may be used as it is; a parameter that is not set is a fault if an
option says so. -/
def checked (s : State) (name : Raw) : State :=
  if s.has 'u' ∧ (value? s name).isNone ∧ !isAll name then
    s.fail (String.ofList name ++ ": parameter not set")
  else s

/-- Gives a missing parameter a value. Only variables can be given one. -/
def assigned (s : State) (name : Raw) (value : Raw) : State :=
  if name.head?.any Raw.startsName then s.assign name value
  else s.fail (String.ofList name ++ ": bad variable name")

/-- The home directory of a user, of the one who runs the script if none is named. -/
def home? (s : State) (user : Raw) : Option Raw :=
  if user.isEmpty then some ((s.value? "HOME".toList).getD [])
  else if user = "root".toList then some "/root".toList
  else none

/-- A word with a home directory in place of a tilde and a user in front. -/
def homed (s : State) (word : Word) : Word :=
  match word with
  | .plain '~' :: more =>
    let user := more.takeWhile fun p => match p with
      | .plain c => c != '/'
      | _ => false
    let rest := more.drop user.length
    let ends := match rest with
      | [] => true
      | .plain _ :: _ => true
      | _ => false
    match (Word.plain? user).bind (home? s) with
    | some path => if ends then path.map Piece.quoted ++ rest else word
    | none => word
  | word => word

/-- A value with home directories in its parts, which colons separate. -/
def homedParts (s : State) (word : Word) : Word :=
  let isColon := fun p : Piece => match p with
    | .plain ':' => true
    | _ => false
  (word.splitBy fun a b => !isColon a && !isColon b).flatMap (homed s)

/-- Expands a parameter; `expand` expands the word behind its use. -/
def parameter (expand : Expander) (splits quoted : Bool) (name : Raw) (use : Use) (word : Word)
    (s : State) : List Atom × State :=
  let value := value? s name
  let missing := fun emptyToo => value.isNone || (emptyToo && value == some [])
  let held := held s splits quoted name
  let expand := fun (splits : Bool) (s : State) => expand splits (homed s word) s
  let inserted := fun (s : State) =>
    let (atoms, s) := expand splits s
    (if quoted then .quotes :: atoms else atoms.map Atom.soften, s)
  let trimmed := fun (trim : List Element → Raw → Raw) =>
    let (atoms, s) := expand false (checked s name)
    let text := trim (Pattern.read (Atom.marks atoms)) (joinedValue s splits quoted name)
    (parameterAtoms s quoted name text, s)
  match use with
  | .value =>
    let (atoms, s) := expand splits (checked s name)
    (held ++ atoms, s)
  | .length => (valueAtoms quoted (Raw.ofNat (value.getD []).length), checked s name)
  | .fallback emptyToo => if missing emptyToo then inserted s else (held, s)
  | .alternative emptyToo =>
    if missing emptyToo then (if quoted then [.quotes] else [], s) else inserted s
  | .assign emptyToo =>
    if missing emptyToo then
      let (atoms, s) := expand false s
      let s := if s.goesOn then assigned s name (Atom.text atoms) else s
      (valueAtoms quoted (Atom.text atoms), s)
    else (held, s)
  | .require emptyToo =>
    if missing emptyToo then
      let (atoms, s) := expand false s
      let text := if word.isEmpty then "parameter not set".toList ++
          (if emptyToo then " or null".toList else [])
        else Atom.text atoms
      ([], if s.goesOn then s.fail (String.ofList (name ++ ": ".toList ++ text)) else s)
    else (held, s)
  | .dropFront longest => trimmed fun pattern => Pattern.dropFront pattern longest
  | .dropBack longest => trimmed fun pattern => Pattern.dropBack pattern longest
  | .unknown => ([], s.fail "Bad substitution")

/-- The variables that hold texts. -/
def scope (s : State) : Expression.Scope :=
  s.memory.filterMap fun entry => entry.2.value.map fun value => (entry.1, value)

/-- Computes an expression and keeps what it assigns. -/
def compute (s : State) (text : Raw) : Raw × State :=
  match (Expression.ofRaw? text).bind (Expression.value? (scope s)) with
  | some (n, after) =>
    let changed := after.take (after.length - (scope s).length)
    (Raw.ofInt n, changed.reverse.foldl (fun s entry => s.assign entry.1 entry.2) s)
  | none => ([], s.fail ("arithmetic expression: \"" ++ String.ofList text ++ "\""))

/-- Expands a piece of a word. -/
def piece (run : Runner) (expand : Expander) (splits : Bool) (p : Piece) (s : State) :
    List Atom × State :=
  match p with
  | .plain c => ([.character c .written], s)
  | .quoted c => ([.character c .quoted], s)
  | .quotes => ([.quotes], s)
  | .parameter quoted name use word => parameter expand splits quoted name use word s
  | .substitution quoted body =>
    let (text, s) := substitute run body s
    (valueAtoms quoted text, s)
  | .arithmetic quoted body =>
    let (atoms, s) := expand false body s
    let (text, s) := if s.goesOn then compute s (Atom.text atoms) else ([], s)
    (valueAtoms quoted text, s)

/-- Expands the pieces of a word, up to a fault; `fuel` bounds how deeply words are nested. -/
def pieces (run : Runner) : Nat → Expander
  | 0, _, _, s => ([], { s with flow := .exhausted })
  | fuel + 1, splits, word, s =>
    let (backwards, s) := word.foldl (fun (atoms, s) p =>
      if s.goesOn then
        let (more, s) := piece run (pieces run fuel) splits p s
        (more.reverse ++ atoms, s)
      else (atoms, s)) ([], s)
    (backwards.reverse, s)

/-- How deeply words are nested at most. -/
def deepest : Nat := 1000

/-- Expands a word that is not split. -/
def unsplit (run : Runner) (word : Word) (s : State) : List Atom × State :=
  pieces run deepest false (homed s word) s

/-- The text of a word that is not split. -/
def text (run : Runner) (word : Word) (s : State) : Raw × State :=
  let (atoms, s) := unsplit run word s
  (Atom.text atoms, s)

/-- The text of a value that is assigned. -/
def valueText (run : Runner) (word : Word) (s : State) : Raw × State :=
  let (atoms, s) := pieces run deepest false (homedParts s word) s
  (Atom.text atoms, s)

/-- Expands words into fields, up to a fault. Whether a word in the form of an assignment is kept
from being split depends on the fields in front of it, which are given backwards. -/
def fieldsAfter (run : Runner) (keeps : List Raw → Bool) (front : List Raw) :
    List Word → State → List Raw × State
  | [], s => (front.reverse, s)
  | word :: rest, s =>
    let (here, s) :=
      match word.assignment?.filter fun _ => keeps front.reverse with
      | some (name, value) =>
        let (value, s) := valueText run value s
        ([name ++ '=' :: value], s)
      | none =>
        let (atoms, s) := pieces run deepest true (homed s word) s
        (Field.split s.separators atoms, s)
    if s.goesOn then fieldsAfter run keeps (here.reverse ++ front) rest s else ([], s)

/-- Expands words into fields, up to a fault. -/
def fields (run : Runner) (words : List Word) (s : State) : List Raw × State :=
  fieldsAfter run (fun _ => false) [] words s

end Downlink.Tool.Script.Expansion
