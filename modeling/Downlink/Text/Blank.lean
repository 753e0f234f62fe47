/-!
# Blanks, words and lines

Text read from files and readers is cut at blanks. A blank is a character with the White_Space
property, so the ideographic space separates words and the zero-width space does not.
-/

namespace Downlink.Text

/-- The characters with the White_Space property. -/
def isBlank (c : Char) : Bool :=
  let n := c.toNat
  (0x09 ≤ n && n ≤ 0x0D) || n == 0x20 || n == 0x85 || n == 0xA0 || n == 0x1680 ||
    (0x2000 ≤ n && n ≤ 0x200A) || n == 0x2028 || n == 0x2029 || n == 0x202F || n == 0x205F ||
    n == 0x3000

theorem isBlank_of_isWhitespace {c : Char} (h : c.isWhitespace = true) : isBlank c = true := by
  simp only [Char.isWhitespace, Bool.or_eq_true, decide_eq_true_eq] at h
  rcases h with ((rfl | rfl) | rfl) | rfl <;> decide

/-! ### Words -/

/-- Cuts off a word under construction: `word` holds its characters in reverse. -/
def wordsFrom (word : List Char) : List Char → List (List Char)
  | [] => if word.isEmpty then [] else [word.reverse]
  | c :: rest =>
    if isBlank c then
      if word.isEmpty then wordsFrom [] rest else word.reverse :: wordsFrom [] rest
    else wordsFrom (c :: word) rest

/-- The maximal runs of characters that are not blank, in order. -/
def wordsOf (text : List Char) : List (List Char) := wordsFrom [] text

/-- The words of a text. -/
def words (text : String) : List String := (wordsOf text.toList).map String.ofList

@[simp] theorem wordsOf_nil : wordsOf [] = [] := rfl

theorem wordsFrom_blank (word rest : List Char) (c : Char) (h : isBlank c = true) :
    wordsFrom word (c :: rest) =
      if word.isEmpty then wordsFrom [] rest else word.reverse :: wordsFrom [] rest := by
  simp [wordsFrom, h]

theorem wordsFrom_letter (word rest : List Char) (c : Char) (h : isBlank c = false) :
    wordsFrom word (c :: rest) = wordsFrom (c :: word) rest := by
  simp [wordsFrom, h]

/-! ### Trimming -/

/-- The text without the blanks at its start. -/
def trimStart (text : List Char) : List Char := text.dropWhile isBlank

/-- The text without the blanks at either end. -/
def trimOf (text : List Char) : List Char := ((trimStart text).reverse.dropWhile isBlank).reverse

/-- The text without the blanks at either end. -/
def trim (text : String) : String := String.ofList (trimOf text.toList)

/-- The text without the carriage returns and line feeds at its end. -/
def dropLineEnds (text : String) : String :=
  String.ofList (text.toList.reverse.dropWhile fun c => c == '\r' || c == '\n').reverse

/-! ### Lines -/

/-- A line without the carriage return that may end it; `line` is in reverse. -/
def closeLine : List Char → List Char
  | '\r' :: line => line.reverse
  | line => line.reverse

/-- Cuts at line feeds; `line` holds the current line in reverse. -/
def linesFrom (line : List Char) : List Char → List (List Char)
  | [] => if line.isEmpty then [] else [line.reverse]
  | '\n' :: rest => closeLine line :: linesFrom [] rest
  | c :: rest => linesFrom (c :: line) rest

/-- The lines of a text. A line feed ends a line, with the carriage return before it if there is
one; a last line needs no line feed, and then keeps its carriage return. -/
def linesOf (text : List Char) : List (List Char) := linesFrom [] text

/-- The lines of a text. -/
def lines (text : String) : List String := (linesOf text.toList).map String.ofList

end Downlink.Text
