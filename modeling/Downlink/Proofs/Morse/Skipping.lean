import Mathlib
import Downlink.Proofs.Morse.Spelling

/-!
# Characters without a pattern

Inside of a word, and as words of their own at the start of a text or between other words, characters
without a pattern leave no trace. A last word made of them leaves the gap in front of it.
-/

namespace Downlink.Morse
open Text

/-- A text without the characters that are neither blank nor have a pattern. -/
def withoutUnknown (text : String) : String :=
  String.ofList (text.toList.filter fun c => isBlank c || isKnown c)

/-- Whether the last word of a text has no known character, though another word has one. -/
def endsUnknown (text : String) : Bool :=
  let words := wordsOf text.toList
  words.any (List.any · isKnown) && words.getLast?.any fun word => !word.any isKnown

/-! ### Words of what is left -/

theorem nonempty_cons (word : List Char) (rest : List (List Char)) :
    nonempty (word :: rest) = if word.isEmpty then nonempty rest else word :: nonempty rest := by
  cases word with
  | nil => rfl
  | cons c word => rfl

/-- What is left of a word that ends, `word` holding its characters in reverse. -/
theorem nonempty_map_closed (word : List Char) (rest : List (List Char)) :
    nonempty ((if word.isEmpty then rest else word.reverse :: rest).map (List.filter isKnown)) =
      if (word.filter isKnown).isEmpty then nonempty (rest.map (List.filter isKnown))
      else (word.filter isKnown).reverse :: nonempty (rest.map (List.filter isKnown)) := by
  cases word with
  | nil => rfl
  | cons c word =>
    rw [if_neg (by simp), List.map_cons, nonempty_cons, List.filter_reverse, List.isEmpty_reverse]

theorem wordsFrom_filter (word text : List Char) :
    wordsFrom (word.filter isKnown) (text.filter fun c => isBlank c || isKnown c) =
      nonempty ((wordsFrom word text).map (List.filter isKnown)) := by
  -- A blank closes what `word` holds, any other character joins it, so both change with the text.
  induction text generalizing word with
  | nil => exact (nonempty_map_closed word []).symm
  | cons c rest ih =>
    cases hblank : isBlank c with
    | true =>
      rw [List.filter_cons_of_pos (by simp [hblank]), wordsFrom_blank _ _ _ hblank,
        wordsFrom_blank _ _ _ hblank, nonempty_map_closed, ← ih, List.filter_nil]
    | false =>
      rw [wordsFrom_letter word rest c hblank, ← ih]
      cases hknown : isKnown c with
      | true =>
        rw [List.filter_cons_of_pos (by simp [hknown]), List.filter_cons_of_pos hknown,
          wordsFrom_letter _ _ _ hblank]
      | false =>
        rw [List.filter_cons_of_neg (by simp [hblank, hknown]),
          List.filter_cons_of_neg (by simp [hknown])]

theorem wordsOf_withoutUnknown (text : String) :
    wordsOf (withoutUnknown text).toList = nonempty (knownParts text.toList) := by
  rw [withoutUnknown, String.toList_ofList]
  exact wordsFrom_filter [] text.toList

theorem knownParts_withoutUnknown (text : String) :
    knownParts (withoutUnknown text).toList = nonempty (knownParts text.toList) := by
  rw [knownParts, wordsOf_withoutUnknown]
  refine (List.map_congr_left fun word hword => ?_).trans (List.map_id' _)
  exact List.filter_eq_self.mpr (isKnown_of_mem_knownParts _ word (mem_nonempty hword).1)

/-- All that is left of a text is keyed without a trace of what was taken away. -/
theorem keyRuns_withoutUnknown (text : String) :
    keyRuns (withoutUnknown text) = spelled (nonempty (knownParts text.toList)) := by
  have hkept : nonempty (nonempty (knownParts text.toList)) = nonempty (knownParts text.toList) := by
    rw [nonempty, nonempty, List.filter_filter]
    simp only [Bool.and_self]
  have hlast : lastGap (nonempty (knownParts text.toList)) = [] := by
    rw [lastGap, if_neg]
    intro hempty
    exact (mem_nonempty (List.mem_of_getLast? hempty)).2 rfl
  rw [keyRuns_eq, knownParts_withoutUnknown, hkept, hlast, ite_self, List.append_nil]

theorem not_isEmpty_filter {α : Type} (p : α → Bool) (xs : List α) :
    (!(xs.filter p).isEmpty) = xs.any p := by
  induction xs with
  | nil => rfl
  | cons x xs ih =>
    cases hx : p x with
    | true => rw [List.filter_cons_of_pos hx, List.any_cons, hx]; rfl
    | false => rw [List.filter_cons_of_neg (by simp [hx]), List.any_cons, hx, ih, Bool.false_or]

theorem nonempty_knownParts_eq_nil_iff (text : String) :
    nonempty (knownParts text.toList) = [] ↔
      (wordsOf text.toList).any (List.any · isKnown) = false := by
  rw [← List.isEmpty_iff, nonempty, ← Bool.not_eq_false', not_isEmpty_filter, knownParts,
    List.any_map]
  simp only [Function.comp_def, not_isEmpty_filter]

theorem getLast?_knownParts_eq_nil_iff (text : String) :
    (knownParts text.toList).getLast? = some [] ↔
      ((wordsOf text.toList).getLast?.any fun word => !word.any isKnown) = true := by
  rw [knownParts, List.getLast?_map]
  cases (wordsOf text.toList).getLast? with
  | none => simp
  | some word =>
    rw [Option.map_some, Option.any_some, ← not_isEmpty_filter, Bool.not_not, List.isEmpty_iff,
      Option.some_inj]

/-- Characters without a pattern are keyed as if they were not there, but for a last word made of
them: if there is anything to key, the gap in front of it stays. -/
theorem keyRuns_skips_unknown (text : String) :
    keyRuns text = keyRuns (withoutUnknown text) ++ if endsUnknown text then [.up 7] else [] := by
  rw [keyRuns_eq, keyRuns_withoutUnknown, lastGap, endsUnknown]
  congr 1
  simp only [nonempty_knownParts_eq_nil_iff, getLast?_knownParts_eq_nil_iff]
  cases (wordsOf text.toList).any (List.any · isKnown) with
  | false => rfl
  | true => rfl

theorem unknown_last_word_leaves_gap :
    keyRuns "E #" ≠ keyRuns (withoutUnknown "E #") := by
  decide

end Downlink.Morse
