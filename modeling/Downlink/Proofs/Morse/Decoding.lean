import Mathlib
import Downlink.Proofs.Morse.Spelling

/-!
# Reading keyed words

Someone who listens cuts the runs of a key at gaps of seven units into words, these at gaps of three
into letters and these at gaps of one into marks. Between two gaps the key is held exactly once, for
one unit or for three.
-/

namespace Downlink.Morse

/-! ### The listener -/

/-- The mark for which the key was held. -/
def mark? : List KeyRun → Option Char
  | [⟨true, 1⟩] => some '.'
  | [⟨true, 3⟩] => some '-'
  | _ => none

/-- The character that has the given marks. -/
def letterOf? (marks : List Char) : Option Char := alphabet.find? fun c => marksOf c == marks

/-- Reads the parts between gaps of some length. -/
def parts? {α : Type} (units : Nat) (read : List KeyRun → Option α) (runs : List KeyRun) :
    Option (List α) :=
  (runs.splitOn (.up units)).mapM read

/-- The letter that runs without a long gap spell. -/
def letter? (runs : List KeyRun) : Option Char := (parts? 1 mark? runs).bind letterOf?

/-- The word that runs without a gap of seven units spell. -/
def word? (runs : List KeyRun) : Option (List Char) := parts? 3 letter? runs

/-- The words that the runs of a key spell. -/
def decode? : List KeyRun → Option (List (List Char))
  | [] => some []
  | r :: rest => parts? 7 word? (r :: rest)

/-- Without the gap behind. -/
def dropTrailingGap (runs : List KeyRun) : List KeyRun := (dropLeadingGap runs.reverse).reverse

/-- The key is held and left by turns, held first and last. -/
inductive Keyed : List KeyRun → Prop
  | hold (units : Nat) : Keyed [⟨true, units⟩]
  | leave (held left : Nat) {rest : List KeyRun} : Keyed rest →
      Keyed (⟨true, held⟩ :: ⟨false, left⟩ :: rest)

/-! ### Turns -/

theorem Keyed.append_up {xs ys : List KeyRun} (hx : Keyed xs) (n : Nat) (hy : Keyed ys) :
    Keyed (xs ++ .up n :: ys) := by
  induction hx with
  | hold units => exact .leave units n hy
  | leave held left _ ih => exact .leave held left ih

theorem Keyed.intercalate (n : Nat) (parts : List (List KeyRun)) (hne : parts ≠ [])
    (h : ∀ part ∈ parts, Keyed part) : Keyed ([KeyRun.up n].intercalate parts) := by
  induction parts with
  | nil => exact absurd rfl hne
  | cons part rest ih =>
    rw [List.forall_mem_cons] at h
    cases rest with
    | nil =>
      rw [List.intercalate_singleton]
      exact h.1
    | cons next rest =>
      rw [List.intercalate_cons_cons, List.append_assoc]
      exact h.1.append_up n (ih (List.cons_ne_nil next rest) h.2)

theorem Keyed.ne_nil {xs : List KeyRun} (h : Keyed xs) : xs ≠ [] := by
  cases h with
  | hold units => exact List.cons_ne_nil _ _
  | leave held left _ => exact List.cons_ne_nil _ _

theorem Keyed.exists_last {xs : List KeyRun} (h : Keyed xs) :
    ∃ front units, xs = front ++ [⟨true, units⟩] := by
  induction h with
  | hold units => exact ⟨[], units, rfl⟩
  | leave held left _ ih =>
    obtain ⟨front, units, rfl⟩ := ih
    exact ⟨⟨true, held⟩ :: ⟨false, left⟩ :: front, units, rfl⟩

theorem Keyed.dropTrailingGap_eq {xs : List KeyRun} (h : Keyed xs) : dropTrailingGap xs = xs := by
  obtain ⟨front, units, rfl⟩ := h.exists_last
  rw [dropTrailingGap, List.reverse_append]
  show (KeyRun.mk true units :: front.reverse).reverse = front ++ [⟨true, units⟩]
  rw [List.reverse_cons, List.reverse_reverse]

theorem dropTrailingGap_append_up (xs : List KeyRun) (n : Nat) :
    dropTrailingGap (xs ++ [.up n]) = xs := by
  rw [dropTrailingGap, List.reverse_append]
  exact List.reverse_reverse xs

theorem keyed_letterSpelled (c : Char) (h : isKnown c = true) : Keyed (letterSpelled c) := by
  refine Keyed.intercalate 1 _ (by simp [marksOf_ne_nil c h]) ?_
  rintro part hpart
  obtain ⟨mark, -, rfl⟩ := List.mem_map.mp hpart
  exact .hold _

theorem keyed_wordSpelled (word : List Char) (hne : word ≠ []) (h : ∀ c ∈ word, isKnown c = true) :
    Keyed (wordSpelled word) := by
  refine Keyed.intercalate 3 _ (by simp [hne]) ?_
  rintro part hpart
  obtain ⟨c, hc, rfl⟩ := List.mem_map.mp hpart
  exact keyed_letterSpelled c (h c hc)

theorem keyed_spelled (words : List (List Char)) (hne : words ≠ [])
    (h : ∀ word ∈ words, word ≠ [] ∧ ∀ c ∈ word, isKnown c = true) : Keyed (spelled words) := by
  refine Keyed.intercalate 7 _ (by simp [hne]) ?_
  rintro part hpart
  obtain ⟨word, hword, rfl⟩ := List.mem_map.mp hpart
  exact keyed_wordSpelled word (h word hword).1 (h word hword).2

/-! ### Gaps inside parts -/

theorem mem_intercalate {α : Type} {sep x : α} {parts : List (List α)}
    (h : x ∈ [sep].intercalate parts) : x = sep ∨ ∃ part ∈ parts, x ∈ part := by
  cases parts with
  | nil => exact absurd h List.not_mem_nil
  | cons part rest =>
    rw [intercalate_cons, List.mem_append, List.mem_flatMap] at h
    rcases h with hfirst | ⟨next, hnext, hmem⟩
    · exact Or.inr ⟨part, List.mem_cons_self, hfirst⟩
    · rcases List.mem_cons.mp hmem with rfl | hmem
      · exact Or.inl rfl
      · exact Or.inr ⟨next, List.mem_cons_of_mem part hnext, hmem⟩

theorem up_ne_mark (n : Nat) (mark : Char) : KeyRun.up n ≠ .mark mark :=
  fun h => Bool.false_ne_true (congrArg KeyRun.down h)

theorem up_mem_letterSpelled {c : Char} {n : Nat} (h : .up n ∈ letterSpelled c) : n = 1 := by
  rcases mem_intercalate h with hsep | ⟨part, hpart, hmem⟩
  · exact congrArg KeyRun.units hsep
  · obtain ⟨mark, -, rfl⟩ := List.mem_map.mp hpart
    exact absurd (List.mem_singleton.mp hmem) (up_ne_mark n mark)

theorem up_mem_wordSpelled {word : List Char} {n : Nat} (h : .up n ∈ wordSpelled word) :
    n = 1 ∨ n = 3 := by
  rcases mem_intercalate h with hsep | ⟨part, hpart, hmem⟩
  · exact Or.inr (congrArg KeyRun.units hsep)
  · obtain ⟨c, -, rfl⟩ := List.mem_map.mp hpart
    exact Or.inl (up_mem_letterSpelled hmem)

/-! ### Reading back -/

theorem mapM_eq_some_map {α β : Type} (read : α → Option β) (value : α → β) (xs : List α)
    (h : ∀ x ∈ xs, read x = some (value x)) : xs.mapM read = some (xs.map value) := by
  induction xs with
  | nil => rfl
  | cons x xs ih =>
    rw [List.forall_mem_cons] at h
    rw [List.mapM_cons, h.1, ih h.2]
    rfl

/-- Parts are read back one by one, unless the gap between them turns up inside of one. -/
theorem parts?_intercalate {α β : Type} (units : Nat) (read : List KeyRun → Option β)
    (spell : α → List KeyRun) (value : α → β) (xs : List α) (hne : xs ≠ [])
    (hgap : ∀ x ∈ xs, .up units ∉ spell x) (hread : ∀ x ∈ xs, read (spell x) = some (value x)) :
    parts? units read ([.up units].intercalate (xs.map spell)) = some (xs.map value) := by
  have hsplit : ([KeyRun.up units].intercalate (xs.map spell)).splitOn (.up units) =
      xs.map spell := by
    refine List.splitOn_intercalate _ ?_ (by simp [hne])
    intro part hpart
    obtain ⟨x, hx, rfl⟩ := List.mem_map.mp hpart
    exact hgap x hx
  rw [parts?, hsplit, List.mapM_map]
  exact mapM_eq_some_map _ value xs hread

theorem mark?_mark (c mark : Char) (h : isKnown c = true) (hmark : mark ∈ marksOf c) :
    mark? [.mark mark] = some mark := by
  have htable : alphabet.all (fun d => (marksOf d).all fun m => mark? [.mark m] == some m) = true := by
    decide
  have hmarks := List.all_eq_true.mp htable c.toUpper (toUpper_mem_alphabet c h)
  rw [marksOf_toUpper] at hmarks
  simpa using List.all_eq_true.mp hmarks mark hmark

theorem letterOf?_marksOf (c : Char) (h : isKnown c = true) :
    letterOf? (marksOf c) = some c.toUpper := by
  have htable : alphabet.all (fun d => letterOf? (marksOf d) == some d) = true := by
    decide +kernel
  have hletter := List.all_eq_true.mp htable c.toUpper (toUpper_mem_alphabet c h)
  rw [marksOf_toUpper] at hletter
  simpa using hletter

theorem letter?_letterSpelled (c : Char) (h : isKnown c = true) :
    letter? (letterSpelled c) = some c.toUpper := by
  have hmarks : parts? 1 mark? (letterSpelled c) = some ((marksOf c).map fun mark => mark) := by
    refine parts?_intercalate 1 mark? (fun mark => [.mark mark]) (fun mark => mark) (marksOf c)
      (marksOf_ne_nil c h) ?_ (fun mark hmark => mark?_mark c mark h hmark)
    exact fun mark _ hmem => up_ne_mark 1 mark (List.mem_singleton.mp hmem)
  rw [letter?, hmarks, List.map_id', Option.bind_some, letterOf?_marksOf c h]

theorem word?_wordSpelled (word : List Char) (hne : word ≠ [])
    (h : ∀ c ∈ word, isKnown c = true) :
    word? (wordSpelled word) = some (word.map Char.toUpper) :=
  parts?_intercalate 3 letter? letterSpelled Char.toUpper word hne
    (fun _ _ hmem => absurd (up_mem_letterSpelled hmem) (by decide))
    (fun c hc => letter?_letterSpelled c (h c hc))

theorem decode?_spelled (words : List (List Char))
    (h : ∀ word ∈ words, word ≠ [] ∧ ∀ c ∈ word, isKnown c = true) :
    decode? (spelled words) = some (words.map (List.map Char.toUpper)) := by
  by_cases hne : words = []
  · subst hne
    rfl
  · have hread : parts? 7 word? (spelled words) = some (words.map (List.map Char.toUpper)) :=
      parts?_intercalate 7 word? wordSpelled (List.map Char.toUpper) words hne
        (fun _ _ hmem => absurd (up_mem_wordSpelled hmem) (by decide))
        (fun word hword => word?_wordSpelled word (h word hword).1 (h word hword).2)
    obtain ⟨r, rest, hruns⟩ := List.exists_cons_of_ne_nil (keyed_spelled words hne h).ne_nil
    rw [hruns] at hread ⊢
    exact hread

/-! ### Whole texts -/

/-- The words of a text as they are keyed: in upper case, without the characters that have no
pattern, and without the words of which nothing is left. -/
def keyedWords (text : List Char) : List (List Char) :=
  nonempty ((Text.wordsOf text).map fun word => (word.map Char.toUpper).filter isKnown)

theorem filter_map_of {α β : Type} (f : α → β) (p : β → Bool) (q : α → Bool) (xs : List α)
    (h : ∀ x, p (f x) = q x) : (xs.map f).filter p = (xs.filter q).map f := by
  rw [List.filter_map]
  congr 1
  exact List.filter_congr fun x _ => h x

theorem keyedWords_eq (text : List Char) :
    keyedWords text = (nonempty (knownParts text)).map (List.map Char.toUpper) := by
  have hparts : ((Text.wordsOf text).map fun word => (word.map Char.toUpper).filter isKnown) =
      (knownParts text).map (List.map Char.toUpper) := by
    rw [knownParts, List.map_map]
    exact List.map_congr_left fun word _ => filter_map_of _ _ _ word isKnown_toUpper
  rw [keyedWords, hparts, nonempty, nonempty]
  exact filter_map_of _ _ _ (knownParts text) fun word => by rw [List.isEmpty_map]

theorem known_of_mem_nonempty (text : List Char) :
    ∀ word ∈ nonempty (knownParts text), word ≠ [] ∧ ∀ c ∈ word, isKnown c = true := by
  intro word hword
  obtain ⟨hpart, hne⟩ := mem_nonempty hword
  exact ⟨hne, isKnown_of_mem_knownParts text word hpart⟩

theorem dropTrailingGap_keyRuns (text : String) :
    dropTrailingGap (keyRuns text) = spelled (nonempty (knownParts text.toList)) := by
  rw [keyRuns_eq]
  by_cases hnone : nonempty (knownParts text.toList) = []
  · rw [if_pos hnone, hnone]
    rfl
  · have hkeyed := keyed_spelled _ hnone (known_of_mem_nonempty text.toList)
    rw [if_neg hnone, lastGap]
    split
    · exact dropTrailingGap_append_up _ 7
    · rw [List.append_nil]
      exact hkeyed.dropTrailingGap_eq

/-- But for a gap that may be left behind it, a text is keyed by turns, and whoever listens hears
its words. -/
theorem decode?_keyRuns (text : String) :
    (dropTrailingGap (keyRuns text) = [] ∨ Keyed (dropTrailingGap (keyRuns text))) ∧
      decode? (dropTrailingGap (keyRuns text)) = some (keyedWords text.toList) := by
  have hknown := known_of_mem_nonempty text.toList
  rw [dropTrailingGap_keyRuns, decode?_spelled _ hknown, keyedWords_eq]
  refine ⟨?_, rfl⟩
  by_cases hnone : nonempty (knownParts text.toList) = []
  · rw [hnone]
    exact Or.inl rfl
  · exact Or.inr (keyed_spelled _ hnone hknown)

end Downlink.Morse
