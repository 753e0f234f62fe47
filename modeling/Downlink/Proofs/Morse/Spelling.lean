import Mathlib
import Downlink.Morse

/-!
# What keyed words look like

Once gaps are merged, a gap of one unit stands between the marks of a letter, a gap of three between
letters and a gap of seven between words. A word of which nothing is known adds nothing, but for the
gap that stays behind if there is no other word after it.
-/

namespace Downlink.Morse

/-- Whether a character has a pattern. -/
def isKnown (c : Char) : Bool := (pattern c).isSome

/-- The marks of a character. -/
def marksOf (c : Char) : List Char := ((pattern c).getD "").toList

/-! ### The table of patterns -/

/-- The characters that have patterns of their own. -/
def alphabet : List Char := "ABCDEFGHIJKLMNOPQRSTUVWXYZ0123456789/?.,=".toList

theorem mem_alphabet_of_isSome (c : Char) (h : (upperPattern c).isSome = true) : c ∈ alphabet := by
  unfold upperPattern at h
  split at h
  any_goals decide
  exact absurd h (by simp)

theorem pattern_toUpper (c : Char) : pattern c.toUpper = pattern c := by
  rw [pattern, Char.toUpper_toUpper_eq_toUpper, pattern]

theorem isKnown_toUpper (c : Char) : isKnown c.toUpper = isKnown c := by
  rw [isKnown, pattern_toUpper, isKnown]

theorem marksOf_toUpper (c : Char) : marksOf c.toUpper = marksOf c := by
  rw [marksOf, pattern_toUpper, marksOf]

theorem toUpper_mem_alphabet (c : Char) (h : isKnown c = true) : c.toUpper ∈ alphabet :=
  mem_alphabet_of_isSome c.toUpper h

theorem marksOf_ne_nil (c : Char) (h : isKnown c = true) : marksOf c ≠ [] := by
  have htable : alphabet.all (fun d => !(marksOf d).isEmpty) = true := by decide
  have hmarks := List.all_eq_true.mp htable c.toUpper (toUpper_mem_alphabet c h)
  rw [marksOf_toUpper] at hmarks
  simpa using hmarks

/-! ### Merged gaps -/

theorem mergeGaps_cons_down (r : KeyRun) (rest : List KeyRun) (h : r.down = true) :
    mergeGaps (r :: rest) = r :: mergeGaps rest := by
  rw [mergeGaps]
  cases mergeGaps rest with
  | nil => rfl
  | cons s rest => simp [h]

theorem mergeGaps_up_cons_down (n : Nat) (r : KeyRun) (rest : List KeyRun) (h : r.down = true) :
    mergeGaps (.up n :: r :: rest) = .up n :: r :: mergeGaps rest := by
  rw [mergeGaps, mergeGaps_cons_down r rest h]
  simp [h]

theorem mergeGaps_up_up (m n : Nat) (rest : List KeyRun) :
    mergeGaps (.up m :: .up n :: rest) = mergeGaps (.up (max m n) :: rest) := by
  rw [mergeGaps, mergeGaps, mergeGaps]
  cases mergeGaps rest with
  | nil => rfl
  | cons s rest =>
    cases hdown : s.down with
    | true => simp [KeyRun.up, hdown]
    | false => simp [KeyRun.up, hdown, Nat.max_assoc]

/-! ### Letters and words -/

/-- The marks of a character, a unit apart. -/
def letterSpelled (c : Char) : List KeyRun :=
  [KeyRun.up 1].intercalate ((marksOf c).map fun mark => [.mark mark])

/-- The letters of a word, three units apart. -/
def wordSpelled (word : List Char) : List KeyRun := [KeyRun.up 3].intercalate (word.map letterSpelled)

/-- Words, seven units apart. -/
def spelled (words : List (List Char)) : List KeyRun :=
  [KeyRun.up 7].intercalate (words.map wordSpelled)

theorem intercalate_cons {α : Type} (sep : α) (xs : List α) (rest : List (List α)) :
    [sep].intercalate (xs :: rest) = xs ++ rest.flatMap (sep :: ·) := by
  induction rest generalizing xs with
  | nil => simp
  | cons ys rest ih =>
    rw [List.intercalate_cons_cons, ih, List.flatMap_cons, List.append_assoc, List.singleton_append,
      List.cons_append]

theorem letterRuns_eq (c : Char) (h : isKnown c = true) :
    letterRuns c = .up 3 :: (marksOf c).flatMap fun mark => [.up 1, .mark mark] := by
  obtain ⟨marks, hpattern⟩ := Option.isSome_iff_exists.mp h
  rw [letterRuns, marksOf, hpattern]
  rfl

theorem letterRuns_of_unknown (c : Char) (h : isKnown c = false) : letterRuns c = [] := by
  have hnone : pattern c = none := by simpa [isKnown] using h
  rw [letterRuns, hnone]

theorem mergeGaps_marks (marks : List Char) (rest : List KeyRun) :
    mergeGaps ((marks.flatMap fun mark => [.up 1, .mark mark]) ++ rest) =
      (marks.flatMap fun mark => [.up 1, .mark mark]) ++ mergeGaps rest := by
  induction marks with
  | nil => rfl
  | cons mark marks ih =>
    rw [List.flatMap_cons, List.append_assoc, List.append_assoc, ← ih]
    exact mergeGaps_up_cons_down 1 (.mark mark) _ rfl

/-- The gap before a letter takes in the gap before its first mark. -/
theorem mergeGaps_up_marks (n : Nat) (c : Char) (rest : List KeyRun) (hn : 1 ≤ n)
    (h : isKnown c = true) :
    mergeGaps (.up n :: (((marksOf c).flatMap fun mark => [.up 1, .mark mark]) ++ rest)) =
      .up n :: (letterSpelled c ++ mergeGaps rest) := by
  obtain ⟨mark, marks, hmarks⟩ := List.exists_cons_of_ne_nil (marksOf_ne_nil c h)
  rw [letterSpelled, hmarks, List.flatMap_cons, List.append_assoc, List.cons_append,
    mergeGaps_up_up, Nat.max_eq_left hn, List.map_cons, intercalate_cons, List.flatMap_map,
    List.append_assoc, ← mergeGaps_marks]
  exact mergeGaps_up_cons_down n (.mark mark) _ rfl

theorem mergeGaps_letters (word : List Char) (rest : List KeyRun)
    (h : ∀ c ∈ word, isKnown c = true) :
    mergeGaps (word.flatMap letterRuns ++ rest) =
      (word.flatMap fun c => .up 3 :: letterSpelled c) ++ mergeGaps rest := by
  induction word with
  | nil => rfl
  | cons c word ih =>
    rw [List.forall_mem_cons] at h
    rw [List.flatMap_cons, List.append_assoc, letterRuns_eq c h.1, List.cons_append,
      mergeGaps_up_marks 3 c _ (by decide) h.1, ih h.2, List.flatMap_cons, List.cons_append,
      List.cons_append, List.append_assoc]

theorem mergeGaps_word (word : List Char) (rest : List KeyRun) (hne : word ≠ [])
    (h : ∀ c ∈ word, isKnown c = true) :
    mergeGaps (wordRuns word ++ rest) = .up 7 :: (wordSpelled word ++ mergeGaps rest) := by
  obtain ⟨c, word, rfl⟩ := List.exists_cons_of_ne_nil hne
  rw [List.forall_mem_cons] at h
  rw [wordRuns, List.flatMap_cons, List.cons_append, List.append_assoc, letterRuns_eq c h.1,
    List.cons_append, mergeGaps_up_up, mergeGaps_up_marks _ c _ (by decide) h.1,
    mergeGaps_letters word rest h.2, wordSpelled, List.map_cons, intercalate_cons,
    List.flatMap_map, List.append_assoc]
  rfl

/-! ### Whole texts -/

/-- The words of which something is left. -/
def nonempty (words : List (List Char)) : List (List Char) :=
  words.filter fun word => !word.isEmpty

/-- The gap before a last word that is empty. -/
def lastGap (words : List (List Char)) : List KeyRun :=
  if words.getLast? = some [] then [.up 7] else []

theorem mergeGaps_words (words : List (List Char))
    (h : ∀ word ∈ words, ∀ c ∈ word, isKnown c = true) :
    mergeGaps (words.flatMap wordRuns) =
      ((nonempty words).flatMap fun word => .up 7 :: wordSpelled word) ++ lastGap words := by
  induction words with
  | nil => rfl
  | cons word rest ih =>
    rw [List.forall_mem_cons] at h
    cases hword : word with
    | nil =>
      cases hrest : rest with
      | nil => rfl
      | cons next tail =>
        -- An empty word shares its gap with the word behind it.
        have hshared : mergeGaps (([] :: next :: tail).flatMap wordRuns) =
            mergeGaps ((next :: tail).flatMap wordRuns) := mergeGaps_up_up 7 7 _
        rw [hshared, ← hrest, ih h.2, lastGap, lastGap, hrest, List.getLast?_cons_cons]
        rfl
    | cons c letters =>
      have hne : word ≠ [] := by rw [hword]; exact List.cons_ne_nil c letters
      have hkept : nonempty (word :: rest) = word :: nonempty rest := by
        rw [nonempty, List.filter_cons_of_pos (by simp [hne]), nonempty]
      have hlast : lastGap (word :: rest) = lastGap rest := by
        cases rest with
        | nil => simp [lastGap, hne]
        | cons next tail => rw [lastGap, List.getLast?_cons_cons, lastGap]
      rw [← hword, List.flatMap_cons, mergeGaps_word word _ hne h.1, ih h.2, hkept, hlast,
        List.flatMap_cons, List.append_assoc]
      rfl

/-- Words are keyed as they are spelled. Only a last word that is empty leaves a trace, and only
behind another word. -/
theorem keyWords_eq (words : List (List Char))
    (h : ∀ word ∈ words, ∀ c ∈ word, isKnown c = true) :
    keyWords words =
      spelled (nonempty words) ++ if nonempty words = [] then [] else lastGap words := by
  rw [keyWords, mergeGaps_words words h]
  cases hkept : nonempty words with
  | nil =>
    rw [lastGap]
    split
    · rfl
    · rfl
  | cons word rest =>
    rw [if_neg (List.cons_ne_nil word rest), spelled, List.map_cons, intercalate_cons,
      List.flatMap_map, List.flatMap_cons]
    rfl

/-- Characters without a pattern add nothing to their word. -/
theorem wordRuns_filter (word : List Char) : wordRuns (word.filter isKnown) = wordRuns word := by
  have hletters : (word.filter isKnown).flatMap letterRuns = word.flatMap letterRuns := by
    induction word with
    | nil => rfl
    | cons c word ih =>
      cases hc : isKnown c with
      | true => rw [List.filter_cons_of_pos hc, List.flatMap_cons, List.flatMap_cons, ih]
      | false =>
        rw [List.filter_cons_of_neg (by simp [hc]), List.flatMap_cons, letterRuns_of_unknown c hc,
          ih, List.nil_append]
  rw [wordRuns, wordRuns, hletters]

theorem keyWords_map_filter (words : List (List Char)) :
    keyWords (words.map (List.filter isKnown)) = keyWords words := by
  rw [keyWords, keyWords, List.flatMap_map]
  simp only [wordRuns_filter]

/-- The words of a text without the characters that have no pattern. -/
def knownParts (text : List Char) : List (List Char) :=
  (Text.wordsOf text).map (List.filter isKnown)

theorem isKnown_of_mem_knownParts (text : List Char) :
    ∀ word ∈ knownParts text, ∀ c ∈ word, isKnown c = true := by
  intro word hword c hc
  obtain ⟨whole, -, rfl⟩ := List.mem_map.mp hword
  exact (List.mem_filter.mp hc).2

theorem mem_nonempty {words : List (List Char)} {word : List Char} (h : word ∈ nonempty words) :
    word ∈ words ∧ word ≠ [] := by
  obtain ⟨hmem, hne⟩ := List.mem_filter.mp h
  exact ⟨hmem, by simpa using hne⟩

theorem keyRuns_eq (text : String) :
    keyRuns text = spelled (nonempty (knownParts text.toList)) ++
      if nonempty (knownParts text.toList) = [] then [] else lastGap (knownParts text.toList) := by
  rw [keyRuns, ← keyWords_map_filter]
  exact keyWords_eq (knownParts text.toList) (isKnown_of_mem_knownParts text.toList)

end Downlink.Morse
