import Downlink.Tool.Escape

/-!
# Quoted text

A script reads an argument in quotes as it is. Quotes are only put where they are needed: single
ones as a rule, double ones around an apostrophe in harmless company. What cannot be printed is
escaped between quotes of its own, which a dollar sign introduces.
-/

namespace Downlink.Tool.Quoted

/-- Whether a character means itself to a script wherever it stands. -/
def isPlain (c : Char) : Bool := c.isAlphanum || "%+,-./:@]_".toList.contains c

/-- Whether a character has a meaning in front of a word. -/
def isLeading (c : Char) : Bool := c == '#' || c == '~'

/-- Whether a character has a meaning as a word of its own. -/
def isBrace (c : Char) : Bool := "\x7b\x7d".toList.contains c

/-- Whether a script takes a text for something else if it has no quotes. -/
def isNeeded : Raw → Bool
  | [] => true
  | first :: rest =>
    isLeading first || (isBrace first && rest.isEmpty) ||
      (first :: rest).any fun c => !(isPlain c || isLeading c || isBrace c)

/-- Whether a text has an apostrophe and nothing that has a meaning between double quotes. -/
def isApostrophic (raw : Raw) : Bool :=
  let harmless := fun c => isPlain c || c == ' ' || c == '\''
  raw.contains '\'' && raw.tail.all harmless && raw.head?.all fun c => harmless c || isLeading c

/-- What escapes a character that cannot be printed, behind a backslash. -/
def escape? (c : Char) : Option Raw :=
  if ' ' ≤ c ∧ c ≤ '~' then none
  else
    match Escapes.controls.find? fun e => e.2 == c.toNat && c ≤ '\r' with
    | some (letter, _) => some [letter]
    | none => some (Decimal.digitsIn 8 3 c.toNat).toList

/-- A text inside single quotes; `escaping` says that those around escapes are open. -/
def inside (escaping : Bool) : Raw → Raw
  | [] => []
  | c :: rest =>
    match escape? c with
    | some code => (if escaping then [] else "'$'".toList) ++ '\\' :: code ++ inside true rest
    | none =>
      if c = '\'' then "'\\''".toList ++ inside false rest
      else (if escaping then "''".toList else []) ++ c :: inside false rest

/-- Whether the last character is escaped. -/
def endsEscaped (raw : Raw) : Bool := (raw.getLast?.bind escape?).isSome

/-- A text as a script has to be given it. One with an apostrophe is gone through twice, to find out
about double quotes first, and what is open at its end is taken for open at its start then. -/
def ofRaw (raw : Raw) : Raw :=
  if !isNeeded raw then raw
  else if isApostrophic raw then '"' :: raw ++ ['"']
  else '\'' :: inside (raw.contains '\'' && endsEscaped raw) raw ++ ['\'']

example : ofRaw "a\tb".toList = "'a'$'\\t''b'".toList := by decide +kernel
example : ofRaw "it's".toList = "\"it's\"".toList := by decide +kernel

/-- Printable text without apostrophes only gets a quote on each side. -/
theorem inside_of_printable (raw : Raw) (h : ∀ c ∈ raw, escape? c = none ∧ c ≠ '\'') :
    inside false raw = raw := by
  induction raw with
  | nil => rfl
  | cons c rest ih =>
    have head := h c List.mem_cons_self
    have tail := ih fun d member => h d (List.mem_cons_of_mem c member)
    simp [inside, head.1, head.2, tail]

end Downlink.Tool.Quoted
