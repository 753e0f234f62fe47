import Downlink.Tool.Script.Grammar

/-!
# Cutting a script into tokens

Blanks, line ends and marks separate words. Quotes, backslashes and expansions bind characters
together; the commands inside an expansion are read at once, because only that shows where the
expansion ends.
-/

namespace Downlink.Tool.Script.Lexicon

/-- Where the characters of a word stand. -/
inductive Mode where
  | word
  /-- Inside the braces of a parameter. -/
  | braces
  | quotes
  /-- Inside the braces of a parameter that stands in quotes. -/
  | quotedBraces
  /-- In a document, which only the end of the text ends. -/
  | document
  /-- Inside an arithmetic expression, behind a number of brackets. -/
  | expression (depth : Nat)
  deriving DecidableEq, Repr

namespace Mode

/-- Whether what is expanded here is kept from being split. -/
def isQuoted : Mode → Bool
  | word => false
  | braces => false
  | _ => true

/-- A character as a piece of the word. -/
def piece (m : Mode) (c : Char) : Piece :=
  match m with
  | quotes => .quoted c
  | quotedBraces => .quoted c
  | document => .quoted c
  | _ => .plain c

/-- Whether a character ends the part of the word in this mode. -/
def ends (m : Mode) (c : Char) (rest : Raw) : Bool :=
  match m with
  | word => " \t\n;&|<>()".toList.contains c
  | braces => c == '\x7d'
  | quotes => c == '"'
  | quotedBraces => c == '\x7d'
  | document => false
  | expression depth => depth == 0 && c == ')' && rest.head? == some ')'

/-- The mode behind a character. -/
def next (m : Mode) (c : Char) : Mode :=
  match m with
  | expression depth =>
    if c = '(' then expression (depth + 1)
    else if c = ')' then expression (depth - 1)
    else m
  | m => m

/-- Whether a backslash takes away the meaning of a character; other characters keep the backslash
in front of them. -/
def escapes (m : Mode) (c : Char) : Bool :=
  match m with
  | word => true
  | braces => true
  | quotes => "$\x60\"\\".toList.contains c
  | quotedBraces => "$\x60\"\\\x7d".toList.contains c
  | document => "$\x60\\".toList.contains c
  | expression _ => "$\x60\"\\".toList.contains c

end Mode

/-- Reads a part of a word. -/
abbrev Scanner := Mode → Raw → Option (List Piece × Raw)

/-- Reads commands up to the bracket that ends them. -/
abbrev Nested := Raw → Option (Command × Raw)

/-- The text behind line ends that a backslash takes away. -/
def joinLines : Raw → Raw
  | '\\' :: '\n' :: rest => joinLines rest
  | text => text

/-- The name at the front of a text, through which lines may be joined. -/
def nameAt : Raw → Raw × Raw
  | '\\' :: '\n' :: rest => nameAt rest
  | c :: rest =>
    if Raw.inName c then
      let (name, rest) := nameAt rest
      (c :: name, rest)
    else ([], c :: rest)
  | [] => ([], [])

/-! ### Parameters -/

/-- The parameters that are named by a mark. -/
def isSpecial (c : Char) : Bool := "*@#?-$!".toList.contains c

/-- The name at the front of the text between braces. -/
def parameterName (text : Raw) : Option (Raw × Raw) :=
  match text with
  | c :: rest =>
    if Raw.startsName c then some (nameAt text)
    else if c.isDigit then
      let name := text.takeWhile Char.isDigit
      some (name, text.drop name.length)
    else if isSpecial c then some ([c], rest)
    else none
  | [] => none

/-- What a number sign asks for in front of more text, if that is a length: the length of a variable
or of the parameter that digits or a single mark name. -/
def measured? (text : Raw) : Option (Raw × Use × Raw) :=
  match joinLines text with
  | c :: rest =>
    let behind := fun name rest =>
      (name, if (joinLines rest).head? = some '\x7d' then .length else .unknown, joinLines rest)
    if Raw.startsName c then
      let (name, rest) := nameAt (c :: rest)
      some (behind name rest)
    else if c.isDigit then
      let digits := (c :: rest).takeWhile Char.isDigit
      some (behind digits ((c :: rest).drop digits.length))
    else if c ≠ '\x7d' ∧ (joinLines rest).head? = some '\x7d' then
      some (if isSpecial c then behind [c] rest else ([], .unknown, joinLines rest))
    else none
  | [] => none

/-- The use of a word that a mark asks for; `emptyToo` tells of a colon in front of it. -/
def wordUse? (emptyToo : Bool) : Char → Option Use
  | '-' => some (.fallback emptyToo)
  | '=' => some (.assign emptyToo)
  | '?' => some (.require emptyToo)
  | '+' => some (.alternative emptyToo)
  | _ => none

/-- The use of a pattern behind its mark, which is doubled for the longest match. -/
def patternUse (drop : Bool → Use) (mark : Char) (text : Raw) : Use × Raw :=
  match joinLines text with
  | c :: rest => if c = mark then (drop true, rest) else (drop false, c :: rest)
  | [] => (drop false, [])

/-- The use behind the name of a parameter. A colon in front of a brace takes it along, and the word
up to the next brace has no use. -/
def use (text : Raw) : Use × Raw :=
  match joinLines text with
  | ':' :: rest =>
    match joinLines rest with
    | '\x7d' :: rest => (.value, rest)
    | c :: rest => ((wordUse? true c).getD .unknown, rest)
    | [] => (.unknown, [])
  | '#' :: rest => patternUse .dropFront '#' rest
  | '%' :: rest => patternUse .dropBack '%' rest
  | '\x7d' :: rest => (.value, '\x7d' :: rest)
  | c :: rest => ((wordUse? false c).getD .unknown, rest)
  | [] => (.unknown, [])

/-- The name and the use at the front of the text between braces. -/
def nameAndUse (text : Raw) : Raw × Use × Raw :=
  let measured := match text with
    | '#' :: rest => measured? rest
    | _ => none
  measured.getD (match parameterName text with
    | some (name, rest) => (name, use rest)
    | none => ([], .unknown, if text.head? = some '\x7d' then text else text.tail))

/-- The mode of the word behind a use. Patterns are read as if they stood outside of quotes. -/
def wordMode (quoted : Bool) : Use → Mode
  | .dropFront _ => .braces
  | .dropBack _ => .braces
  | _ => if quoted then .quotedBraces else .braces

/-- Reads a parameter in braces. -/
def braced (scan : Scanner) (quoted : Bool) (text : Raw) : Option (Piece × Raw) := do
  let (name, use, rest) := nameAndUse (joinLines text)
  let (word, rest) ← scan (wordMode quoted use) rest
  match rest with
  | '\x7d' :: rest => return (.parameter quoted name use word, rest)
  | _ => none

/-- Reads what stands behind a dollar sign. -/
def expansion (scan : Scanner) (nested : Nested) (quoted : Bool) (text : Raw) :
    Option (Piece × Raw) :=
  match joinLines text with
  | '(' :: '(' :: rest => do
    let (body, rest) ← scan (.expression 0) rest
    return (.arithmetic quoted body, rest.drop 2)
  | '(' :: rest => do
    let (body, rest) ← nested rest
    return (.substitution quoted body, rest)
  | '\x7b' :: rest => braced scan quoted rest
  | c :: rest =>
    if Raw.startsName c then
      let (name, rest) := nameAt (c :: rest)
      some (.parameter quoted name .value [], rest)
    else if c.isDigit ∨ isSpecial c then some (.parameter quoted [c] .value [], rest)
    else some (if quoted then .quoted '$' else .plain '$', c :: rest)
  | [] => some (if quoted then .quoted '$' else .plain '$', [])

/-! ### Old substitutions -/

/-- The commands between backquotes, and the text behind them. A backslash protects a backslash, a
dollar sign and a backquote, and a quotation mark where the substitution stands in quotes. -/
def backquoted (quoted : Bool) : Raw → Option (Raw × Raw)
  | [] => none
  | '\x60' :: rest => some ([], rest)
  | '\\' :: '\n' :: rest => backquoted quoted rest
  | '\\' :: c :: rest =>
    let protects := c == '\\' || c == '$' || c == '\x60' || (quoted && c == '"')
    (backquoted quoted rest).map fun read =>
      (if protects then c :: read.1 else '\\' :: c :: read.1, read.2)
  | c :: rest => (backquoted quoted rest).map fun read => (c :: read.1, read.2)

/-! ### Words -/

/-- Puts pieces in front of those that a scan reads. -/
def prepend (pieces : List Piece) (read : Option (List Piece × Raw)) :
    Option (List Piece × Raw) :=
  read.map fun r => (pieces ++ r.1, r.2)

/-- The text between single quotes and the text behind them. -/
def singleQuoted (text : Raw) : Option (Raw × Raw) :=
  let inside := text.takeWhile (· != '\'')
  match text.drop inside.length with
  | _ :: rest => some (inside, rest)
  | [] => none

/-- The pieces between quotation marks, behind quotes that make a field of nothing. All arguments on
their own need not be a field. -/
def quotedPieces (inside : List Piece) : List Piece :=
  match inside with
  | [.parameter _ ['@'] .value []] => inside
  | _ => .quotes :: inside

/-- Reads a part of a word; `fuel` bounds the number of its pieces, and `whole` reads the text of an
old substitution. -/
def scan (nested : Nested) (whole : Raw → Option Command) : Nat → Scanner
  | 0, _, _ => none
  | fuel + 1, m, text =>
    let onward := scan nested whole fuel
    match text with
    | [] => if m = .word ∨ m = .document then some ([], []) else none
    | c :: rest =>
      if m.ends c rest then some ([], text)
      else if c = '\\' then
        match rest with
        | [] => prepend [.quoted '\\'] (onward m [])
        | '\n' :: rest => onward m rest
        | next :: rest' =>
          if m.escapes next then prepend [.quoted next] (onward m rest')
          else prepend [.quoted '\\'] (onward m rest)
      else if c = '$' then do
        let (piece, rest) ← expansion onward nested m.isQuoted rest
        prepend [piece] (onward m rest)
      else if c = '\x60' then do
        let (commands, rest) ← backquoted m.isQuoted rest
        prepend [.substitution m.isQuoted (← whole commands)] (onward m rest)
      else if c = '\'' ∧ (m = .word ∨ m = .braces) then do
        let (inside, rest) ← singleQuoted rest
        prepend (if inside.isEmpty then [.quotes] else inside.map .quoted) (onward m rest)
      else if c = '"' then
        match m with
        | .expression _ => prepend [m.piece c] (onward m rest)
        | .document => prepend [.quoted c] (onward m rest)
        | _ => do
          let (inside, rest) ← onward .quotes rest
          prepend (quotedPieces inside) (onward m (rest.drop 1))
      else prepend [m.piece c] (onward (m.next c) rest)

/-! ### Tokens -/

/-- The brackets around a token, the innermost first, each with the number of selections inside it
that have not ended: a closing bracket belongs to a branch as long as there is one. -/
abbrev Nest := List Nat

/-- What is known in front of a token. -/
structure Context where
  nest : Nest
  /-- Whether a word would be the first one of a command. -/
  first : Bool

namespace Context

/-- At the start of a script. -/
def outside : Context := ⟨[], true⟩

/-- Behind the bracket that starts a substitution. -/
def inside : Context := ⟨[0], true⟩

/-- Behind a word. -/
def behindWord (p : Context) (word : Word) : Context :=
  let keyword := if p.first then word.plain?.filter Token.reserved.contains else none
  let nest := match p.nest with
    | pending :: rest =>
      if keyword = some "case".toList then (pending + 1) :: rest
      else if keyword = some "esac".toList then (pending - 1) :: rest
      else p.nest
    | [] => []
  -- behind these words stands no command
  let apart := ["case", "for", "in", "esac"].map String.toList
  ⟨nest, keyword.any fun word => !apart.contains word⟩

/-- Behind an opening bracket. -/
def opened (p : Context) : Context := ⟨if p.nest.isEmpty then [] else 0 :: p.nest, true⟩

/-- Behind a closing bracket; nothing if it ends the substitution. -/
def closed? (p : Context) : Option Context :=
  match p.nest with
  | [] => some ⟨[], true⟩
  | [0] => none
  | 0 :: rest => some ⟨rest, true⟩
  | n :: rest => some ⟨n :: rest, true⟩

/-- Behind a mark that separates commands. -/
def separated (p : Context) : Context := { p with first := true }

end Context

/-- The text behind blanks and a comment. -/
def skipBlanks : Raw → Raw
  | ' ' :: rest => skipBlanks rest
  | '\t' :: rest => skipBlanks rest
  | '\\' :: '\n' :: rest => skipBlanks rest
  | '#' :: rest => rest.dropWhile (· != '\n')
  | text => text

/-- A mark at the front of a text. -/
def mark? (text : Raw) : Option (Token × Raw) :=
  match text with
  | '\n' :: rest => some (.newline, rest)
  | ';' :: ';' :: rest => some (.doubleSemicolon, rest)
  | ';' :: rest => some (.semicolon, rest)
  | '&' :: '&' :: rest => some (.doubleAmpersand, rest)
  | '&' :: rest => some (.ampersand, rest)
  | '|' :: '|' :: rest => some (.doubleBar, rest)
  | '|' :: rest => some (.bar, rest)
  | '(' :: rest => some (.opening, rest)
  | ')' :: rest => some (.closing, rest)
  | _ => none

/-- A redirection at the front of a text. -/
def redirection? (text : Raw) : Option (Nat × Direction × Raw) :=
  let (descriptor, marks) := match text with
    | c :: rest => if c.isDigit then (some (Raw.digitValue c), rest) else (none, text)
    | [] => (none, [])
  match marks with
  | '<' :: '<' :: rest => some (descriptor.getD 0, .document, rest)
  | '<' :: '&' :: rest => some (descriptor.getD 0, .copy, rest)
  | '<' :: '>' :: rest => some (descriptor.getD 0, .both, rest)
  | '<' :: rest => some (descriptor.getD 0, .input, rest)
  | '>' :: '&' :: rest => some (descriptor.getD 1, .copy, rest)
  | '>' :: '>' :: rest => some (descriptor.getD 1, .append, rest)
  | '>' :: '|' :: rest => some (descriptor.getD 1, .output, rest)
  | '>' :: rest => some (descriptor.getD 1, .output, rest)
  | _ => none

/-! ### Documents -/

/-- A document that starts behind the line in which it is asked for. -/
structure Document where
  /-- The line that ends it. -/
  last : Raw
  /-- Whether nothing in it is replaced. -/
  asItIs : Bool
  /-- Whether tabs at the start of its lines are left out. -/
  untabbed : Bool

/-- The document that a word asks for; a hyphen in front belongs to the mark. -/
def document? (scan : Scanner) (text : Raw) : Option (Document × Raw) := do
  let (untabbed, text) := match text with
    | '-' :: rest => (true, rest)
    | text => (false, text)
  let (pieces, rest) ← scan .word (skipBlanks text)
  let last ← pieces.foldlM (fun raw p =>
    match p with
    | .plain c => some (raw ++ [c])
    | .quoted c => some (raw ++ [c])
    | .quotes => some raw
    | _ => none) []
  if rest.length = (skipBlanks text).length then none
  else return (⟨last, (Word.plain? pieces).isNone, untabbed⟩, rest)

/-- The text of a document up to the line that ends it, and what stands behind that line; `fuel`
bounds the number of lines. -/
def documentText (d : Document) : Nat → Raw → Raw × Raw
  | 0, text => ([], text)
  | fuel + 1, text =>
    if text.isEmpty then ([], [])
    else
      let text := if d.untabbed then text.dropWhile (· == '\t') else text
      let line := text.takeWhile (· != '\n')
      let rest := text.drop (line.length + 1)
      if line = d.last then ([], rest)
      else
        let (more, rest) := documentText d fuel rest
        (text.take (line.length + 1) ++ more, rest)

/-- Reads documents one after the other, each into a word. -/
def documents (scan : Scanner) : List Document → Raw → Option (List Word × Raw)
  | [], text => some ([], text)
  | d :: more, text => do
    let (inside, rest) := documentText d (text.length + 1) text
    let pieces ← if d.asItIs then some (inside.map Piece.quoted)
      else (scan .document inside).map Prod.fst
    let (words, rest) ← documents scan more rest
    return (pieces :: words, rest)

/-! ### Cutting -/

/-- What a text was cut into. -/
structure Cut where
  tokens : List Token
  /-- The documents behind the first line. -/
  documents : List Word
  /-- The text behind the bracket that ended a substitution. -/
  behind : Option Raw

namespace Cut

/-- Nothing that makes sense. -/
def fault : Cut := ⟨[.fault], [], none⟩

/-- What was cut, behind more tokens. -/
def after (c : Cut) (tokens : List Token) : Cut := { c with tokens := tokens ++ c.tokens }

end Cut

/-- Cuts a text into tokens, up to the bracket that ends a substitution. What is no token ends the
tokens. `last` is the number of the last line, and `pending` are the documents that the current line
asks for. -/
def tokensFrom (scan : Scanner) (last : Nat) : Nat → List Document → Context → Raw → Cut
  | 0, _, _, _ => .fault
  | fuel + 1, pending, p, text =>
    let text := skipBlanks text
    let onward := tokensFrom scan last fuel
    if text.isEmpty then ⟨[], [], none⟩
    else
      match redirection? text, mark? text with
      | some (descriptor, .document, rest), _ =>
        match document? scan rest with
        | some (d, rest) =>
          let cut := onward (pending ++ [d]) { p with first := false } rest
          cut.after
            [.redirection descriptor .document,
              .word (cut.documents.getD pending.length []) ⟨last, rest⟩]
        | none => .fault
      | some (descriptor, direction, rest), _ =>
        (onward pending { p with first := false } rest).after [.redirection descriptor direction]
      | none, some (.opening, rest) => (onward pending p.opened rest).after [.opening]
      | none, some (.closing, rest) =>
        match p.closed? with
        | some p => (onward pending p rest).after [.closing]
        | none => ⟨[], [], some rest⟩
      | none, some (.newline, rest) =>
        match documents scan pending rest with
        | some (words, rest) =>
          { (onward [] p.separated rest).after [.newline] with documents := words }
        | none => .fault
      | none, some (token, rest) => (onward pending p.separated rest).after [token]
      | none, none =>
        match scan .word text with
        | some (pieces, rest) =>
          (onward pending (p.behindWord pieces) rest).after [.word pieces ⟨last, rest⟩]
        | none => .fault

/-- Cuts a script into tokens; `fuel` bounds how deeply substitutions are nested. Commands between
backquotes are a script of their own. -/
def tokensWithin : Nat → Nat → Context → Raw → Cut
  | 0, _, _, _ => .fault
  | fuel + 1, last, p, text =>
    let nested : Nested := fun text => do
      let cut := tokensWithin fuel last .inside text
      return (← Grammar.whole cut.tokens, ← cut.behind)
    let whole := fun text : Raw =>
      Grammar.front (tokensWithin fuel (1 + text.count '\n') .outside text).tokens
    tokensFrom (scan nested whole (text.length + 1)) last (text.length + 1) [] p text

/-- The tokens of a script. -/
def tokens (script : Raw) : List Token :=
  (tokensWithin (script.length + 1) (1 + script.count '\n') .outside script).tokens

end Downlink.Tool.Script.Lexicon
