import Downlink.Tool.Script.Token

/-!
# Grammar of a script

Tokens are read into commands, a line at a time: what a later line holds does not matter to the
lines before it. Commands are joined by bars into pipelines, these by double marks, and these by
semicolons and line ends into lists; a list stands inside every compound command. A reader answers
nothing where the tokens are no command.
-/

namespace Downlink.Tool.Script.Grammar

/-- Reads a command and leaves the tokens behind it. -/
abbrev Reader := List Token → Option (Command × List Token)

/-- The tokens behind line ends. -/
def skipNewlines (tokens : List Token) : List Token := tokens.dropWhile Token.isNewline

/-- The tokens behind a reserved word, if it comes first. -/
def expect (text : String) (tokens : List Token) : Option (List Token) :=
  match tokens with
  | t :: rest => if t.isKeyword text then some rest else none
  | [] => none

/-! ### Simple commands -/

/-- The parts of a simple command, in reverse. -/
structure Parts where
  /-- The place behind the first word. -/
  position : Option Position
  assignments : List (Raw × Word)
  words : List Word
  redirections : List Redirection

/-- Reads the parts of a simple command. -/
def parts (p : Parts) : List Token → Option (Parts × List Token)
  | .word pieces position :: rest =>
    let p := { p with position := p.position <|> some position }
    match p.words, pieces.assignment? with
    | [], some assignment => parts { p with assignments := assignment :: p.assignments } rest
    | _, _ => parts { p with words := pieces :: p.words } rest
  | .redirection descriptor direction :: .word target position :: rest =>
    parts { p with
      position := p.position <|> some position
      redirections := .mk descriptor direction target :: p.redirections } rest
  | .redirection _ _ :: _ => none
  | rest => some (p, rest)

/-- The redirections behind a compound command. -/
def redirections : List Token → Option (List Redirection × List Token)
  | .redirection descriptor direction :: .word target _ :: rest => do
    let (more, rest) ← redirections rest
    return (.mk descriptor direction target :: more, rest)
  | .redirection _ _ :: _ => none
  | rest => some ([], rest)

/-- Whether a text is a name. -/
def isName (raw : Raw) : Bool := raw.head?.any Raw.startsName && raw.all Raw.inName

/-- The names that cannot be defined. -/
def undefinable : List Raw :=
  [".", ":", "break", "continue", "eval", "exec", "exit", "export", "readonly", "return", "set",
    "shift", "times", "trap", "unset"].map String.toList

/-- Reads a simple command, or the definition of a name. -/
def simple (command : Reader) (tokens : List Token) : Option (Command × List Token) := do
  let (p, rest) ← parts ⟨none, [], [], []⟩ tokens
  match p, rest with
  | ⟨_, [], [word], []⟩, .opening :: .closing :: rest =>
    let name ← word.plain?
    if !isName name || undefinable.contains name then none
    else
      let (body, rest) ← command (skipNewlines rest)
      return (.definition name body, rest)
  | ⟨none, _, _, _⟩, _ => none
  | ⟨some position, assignments, words, redirections⟩, rest =>
    return (.simple position assignments.reverse words.reverse redirections.reverse, rest)

/-! ### Joined commands -/

/-- Reads the stages of a pipeline. -/
def stages (command : Reader) : Nat → List Token → Option (List Command × List Token)
  | 0, _ => none
  | fuel + 1, tokens => do
    let (first, rest) ← command tokens
    match rest with
    | .bar :: rest =>
      let (more, rest) ← stages command fuel (skipNewlines rest)
      return (first :: more, rest)
    | rest => return ([first], rest)

/-- Reads a pipeline, which may be negated. -/
def pipeline (command : Reader) (tokens : List Token) : Option (Command × List Token) :=
  let body := fun tokens => do
    match ← stages command (tokens.length + 1) tokens with
    | ([only], rest) => some (only, rest)
    | (several, rest) => some (.pipeline several, rest)
  match expect "!" tokens with
  | some rest => (body rest).map fun read => (.negation read.1, read.2)
  | none => body tokens

/-- Reads what is joined to a command by double marks. -/
def joined (command : Reader) : Nat → Command → Reader
  | 0, _, _ => none
  | fuel + 1, first, tokens =>
    match tokens with
    | .doubleAmpersand :: rest => do
      let (second, rest) ← pipeline command (skipNewlines rest)
      joined command fuel (.both first second) rest
    | .doubleBar :: rest => do
      let (second, rest) ← pipeline command (skipNewlines rest)
      joined command fuel (.either first second) rest
    | _ => some (first, tokens)

/-- Reads pipelines joined by double marks. -/
def andOr (command : Reader) (tokens : List Token) : Option (Command × List Token) := do
  let (first, rest) ← pipeline command tokens
  joined command (tokens.length + 1) first rest

/-- Two commands, one after the other. -/
def followedBy (first second : Command) : Command :=
  match second with
  | .nothing => first
  | _ => .sequence first second

/-- Reads a list up to a token that ends it. -/
def listFrom (command : Reader) : Nat → Reader
  | 0, _ => none
  | fuel + 1, tokens =>
    match skipNewlines tokens with
    | [] => some (.nothing, [])
    | t :: rest =>
      if t.endsList then some (.nothing, t :: rest)
      else do
        let (first, rest) ← andOr command (t :: rest)
        let (mark, first, rest) := match rest with
          | .semicolon :: rest => (true, first, rest)
          | .ampersand :: rest => (true, .background first, rest)
          | .newline :: rest => (true, first, rest)
          | rest => (false, first, rest)
        if mark then
          let (more, rest) ← listFrom command fuel rest
          return (followedBy first more, rest)
        else return (first, rest)

/-- Reads a list of at least one command. -/
def list (command : Reader) (tokens : List Token) : Option (Command × List Token) :=
  match listFrom command (tokens.length + 1) tokens with
  | some (.nothing, _) => none
  | read => read

/-! ### Compound commands -/

/-- Reads a list and the reserved word behind it. -/
def listUpTo (command : Reader) (text : String) (tokens : List Token) :
    Option (Command × List Token) := do
  let (body, rest) ← list command tokens
  return (body, ← expect text rest)

/-- Reads a choice behind its first word. -/
def choice (command : Reader) : Nat → Reader
  | 0, _ => none
  | fuel + 1, tokens => do
    let (test, rest) ← listUpTo command "then" tokens
    let (yes, rest) ← list command rest
    match rest with
    | t :: rest =>
      if t.isKeyword "fi" then some (.choice test yes .nothing, rest)
      else if t.isKeyword "else" then
        let (no, rest) ← listUpTo command "fi" rest
        some (.choice test yes no, rest)
      else if t.isKeyword "elif" then
        let (no, rest) ← choice command fuel rest
        some (.choice test yes no, rest)
      else none
    | [] => none

/-- Reads a loop behind its first word. -/
def loop (command : Reader) (untilSuccess : Bool) (tokens : List Token) :
    Option (Command × List Token) := do
  let (test, rest) ← listUpTo command "do" tokens
  let (body, rest) ← listUpTo command "done" rest
  return (.loop untilSuccess test body, rest)

/-- The words at the front of tokens. -/
def leadingWords : List Token → List Word × List Token
  | .word pieces _ :: rest =>
    let (more, rest) := leadingWords rest
    (pieces :: more, rest)
  | rest => ([], rest)

/-- Reads a loop over words behind its first word. -/
def each (command : Reader) : Reader
  | .word pieces _ :: rest => do
    let name ← pieces.plain?.filter isName
    let (words, rest) ← match expect "in" (skipNewlines rest) with
      | some rest =>
        let (words, rest) := leadingWords rest
        match rest with
        | .newline :: rest => some (some words, rest)
        | .semicolon :: rest => some (some words, rest)
        | _ => none
      | none =>
        match skipNewlines rest with
        | .semicolon :: rest => some (none, rest)
        | rest => some (none, rest)
    let (body, rest) ← listUpTo command "done" (← expect "do" (skipNewlines rest))
    return (.each name words body, rest)
  | _ => none

/-- The patterns of a branch and the tokens behind their bracket. -/
def patterns : List Token → Option (List Word × List Token)
  | .word pieces _ :: .bar :: rest => do
    let (more, rest) ← patterns rest
    return (pieces :: more, rest)
  | .word pieces _ :: .closing :: rest => some ([pieces], rest)
  | _ => none

/-- Reads the branches of a selection. -/
def branches (command : Reader) :
    Nat → List Token → Option (List (List Word × Command) × List Token)
  | 0, _ => none
  | fuel + 1, tokens =>
    let tokens := skipNewlines tokens
    match expect "esac" tokens with
    | some rest => some ([], rest)
    | none => do
      let tokens := match tokens with
        | .opening :: rest => rest
        | tokens => tokens
      let (words, rest) ← patterns tokens
      let (body, rest) ← listFrom command (rest.length + 1) rest
      match skipNewlines rest with
      | .doubleSemicolon :: rest =>
        let (more, rest) ← branches command fuel rest
        return ((words, body) :: more, rest)
      | rest => return ([(words, body)], ← expect "esac" rest)

/-- Reads a selection behind its first word. -/
def select (command : Reader) : Reader
  | .word pieces _ :: rest => do
    let rest ← expect "in" (skipNewlines rest)
    let (read, rest) ← branches command (rest.length + 1) rest
    return (.select pieces read, rest)
  | _ => none

/-- Reads a compound command; nothing if the tokens start none. -/
def compound? (command : Reader) (tokens : List Token) : Option (Option (Command × List Token)) :=
  match tokens with
  | .opening :: rest => some do
    let (body, rest) ← list command rest
    match rest with
    | .closing :: rest => some (.subshell body, rest)
    | _ => none
  | t :: rest =>
    (t.keyword?).map fun word =>
      if word = ['\x7b'] then listUpTo command "\x7d" rest
      else if word = "if".toList then choice command (rest.length + 1) rest
      else if word = "while".toList then loop command false rest
      else if word = "until".toList then loop command true rest
      else if word = "for".toList then each command rest
      else if word = "case".toList then select command rest
      else none
  | [] => some none

/-- Reads a command; `fuel` bounds how deeply commands are nested. -/
def command : Nat → Reader
  | 0, _ => none
  | fuel + 1, tokens =>
    match compound? (command fuel) tokens with
    | some read => do
      let (body, rest) ← read
      match ← redirections rest with
      | ([], rest) => return (body, rest)
      -- no word can follow, not even a reserved one
      | (_, .word _ _ :: _) => none
      | (found, rest) =>
        return match body with
          -- the redirections of a lone part give way to those of the group around it
          | .redirected (.subshell part) _ => (.redirected (.subshell part) found, rest)
          | body => (.redirected body found, rest)
    | none => simple (command fuel) tokens

/-! ### Lines -/

/-- Reads what is left of a line. -/
def lineFrom (command : Reader) : Nat → Reader
  | 0, _ => none
  | fuel + 1, tokens => do
    let (first, rest) ← andOr command tokens
    let more := fun (first : Command) rest =>
      match rest with
      | [] => some (first, [])
      | .newline :: rest => some (first, rest)
      | rest => (lineFrom command fuel rest).map fun read => (.sequence first read.1, read.2)
    match rest with
    | [] => some (first, [])
    | .newline :: rest => some (first, rest)
    | .semicolon :: rest => more first rest
    | .ampersand :: rest => more (.background first) rest
    | _ => none

/-- Reads one line of commands. -/
def line (tokens : List Token) : Option (Command × List Token) :=
  lineFrom (command (tokens.length + 1)) (tokens.length + 1) tokens

/-- Reads a list, which may be empty, and lets tokens be that stand behind it. -/
def front (tokens : List Token) : Option Command :=
  match listFrom (command (tokens.length + 1)) (tokens.length + 1) tokens with
  | some (_, .fault :: _) => none
  | read => read.map Prod.fst

/-- Reads all tokens as one list, which may be empty. -/
def whole (tokens : List Token) : Option Command :=
  match listFrom (command (tokens.length + 1)) (tokens.length + 1) tokens with
  | some (body, []) => some body
  | _ => none

end Downlink.Tool.Script.Grammar
