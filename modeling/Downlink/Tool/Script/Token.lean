import Downlink.Tool.Script.Command

/-!
# Tokens of a script

Words, redirections and the marks between them. Which words are reserved depends on where they
stand, so that is left to the grammar.
-/

namespace Downlink.Tool.Script

/-- A token. -/
inductive Token where
  /-- A word and the place behind it. -/
  | word (pieces : Word) (position : Position)
  | redirection (descriptor : Nat) (direction : Direction)
  | newline
  | semicolon
  | doubleSemicolon
  | ampersand
  | doubleAmpersand
  | bar
  | doubleBar
  | opening
  | closing
  /-- Text that is no token, such as quotes without an end. -/
  | fault

namespace Token

/-- The words that are reserved at the start of a command. -/
def reserved : List Raw :=
  ["!", "\x7b", "\x7d", "case", "do", "done", "elif", "else", "esac", "fi", "for", "if", "in",
    "then", "until", "while"].map String.toList

/-- The reserved word that a token is at the start of a command. -/
def keyword? : Token → Option Raw
  | word pieces _ => pieces.plain?.filter reserved.contains
  | _ => none

/-- Whether a token is a reserved word. -/
def isKeyword (t : Token) (text : String) : Bool := t.keyword? == some text.toList

/-- Whether a token ends the commands in front of it. -/
def endsList : Token → Bool
  | closing => true
  | doubleSemicolon => true
  | t => ["\x7d", "do", "done", "elif", "else", "esac", "fi", "then"].any t.isKeyword

/-- The place behind a word. -/
def position? : Token → Option Position
  | word _ position => some position
  | _ => none

/-- Whether the token is a line end. -/
def isNewline : Token → Bool
  | newline => true
  | _ => false

end Token

end Downlink.Tool.Script
