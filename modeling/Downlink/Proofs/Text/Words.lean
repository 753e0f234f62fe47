import Mathlib
import Downlink.Text.Blank

/-!
# Words and lines

A text is blank, or it has a first word: blanks, the word, and nothing or a blank behind it. Blanks
apart, the first word of a text is also the start of one of its lines.
-/

namespace Downlink.Text

/-- There is nothing but blanks. -/
def AllBlank (text : List Char) : Prop := ∀ c ∈ text, isBlank c = true

/-- A text without blanks, and with something in it. -/
structure IsWord (text : List Char) : Prop where
  ne_nil : text ≠ []
  letters : ∀ c ∈ text, isBlank c = false

/-- A word in front of the text ends where the text begins. -/
def EndsWord (rest : List Char) : Prop := ∀ c ∈ rest.head?, isBlank c = true

theorem allBlank_nil : AllBlank [] := fun _ h => absurd h List.not_mem_nil

theorem allBlank_singleton {c : Char} (h : isBlank c = true) : AllBlank [c] := by
  intro d hd
  rwa [List.mem_singleton.mp hd]

theorem endsWord_nil : EndsWord [] := fun _ h => absurd h (by simp)

theorem endsWord_blanks {blanks : List Char} (hne : blanks ≠ []) (hb : AllBlank blanks)
    (rest : List Char) : EndsWord (blanks ++ rest) := by
  obtain ⟨c, blanks, rfl⟩ := List.exists_cons_of_ne_nil hne
  intro d hd
  obtain rfl : c = d := by simpa using hd
  exact hb c List.mem_cons_self

theorem ne_of_isBlank {c d : Char} (hc : isBlank c = false) (hd : isBlank d = true) : c ≠ d := by
  rintro rfl
  exact Bool.noConfusion (hc.symm.trans hd)

/-! ### Words -/

theorem wordsFrom_letters {letters : List Char} (h : ∀ c ∈ letters, isBlank c = false)
    (word rest : List Char) :
    wordsFrom word (letters ++ rest) = wordsFrom (letters.reverse ++ word) rest := by
  induction letters generalizing word with
  | nil => rfl
  | cons c letters ih =>
    rw [List.forall_mem_cons] at h
    rw [List.cons_append, wordsFrom_letter _ _ _ h.1, ih h.2, List.reverse_cons,
      List.append_assoc, List.singleton_append]

theorem wordsOf_blanks {blanks : List Char} (h : AllBlank blanks) (rest : List Char) :
    wordsOf (blanks ++ rest) = wordsOf rest := by
  induction blanks with
  | nil => rfl
  | cons c blanks ih =>
    have hc := h c List.mem_cons_self
    rw [List.cons_append, wordsOf, wordsFrom_blank _ _ _ hc]
    exact ih fun d hd => h d (List.mem_cons_of_mem c hd)

theorem IsWord.wordsOf_append {word rest : List Char} (hw : IsWord word) (hr : EndsWord rest) :
    wordsOf (word ++ rest) = word :: wordsOf rest := by
  have hsome : ¬ word.reverse.isEmpty = true := by
    simp [hw.ne_nil]
  rw [wordsOf, wordsFrom_letters hw.letters, List.append_nil]
  cases rest with
  | nil => rw [wordsFrom, if_neg hsome, List.reverse_reverse, wordsOf_nil]
  | cons c rest =>
    have hc : isBlank c = true := hr c rfl
    rw [wordsFrom_blank _ _ _ hc, if_neg hsome, List.reverse_reverse, wordsOf,
      wordsFrom_blank _ _ _ hc]
    rfl

theorem wordsOf_cases (text : List Char) :
    (AllBlank text ∧ wordsOf text = []) ∨
    ∃ blanks word rest, AllBlank blanks ∧ IsWord word ∧ EndsWord rest ∧
      text = blanks ++ (word ++ rest) ∧ wordsOf text = word :: wordsOf rest := by
  have hsplit : text.takeWhile isBlank ++ text.dropWhile isBlank = text :=
    List.takeWhile_append_dropWhile
  have hblanks : AllBlank (text.takeWhile isBlank) := fun c hc => List.mem_takeWhile_imp hc
  have hwords := wordsOf_blanks hblanks (text.dropWhile isBlank)
  rw [hsplit] at hwords
  cases htext : text.dropWhile isBlank with
  | nil =>
    rw [htext] at hwords
    exact Or.inl ⟨List.dropWhile_eq_nil_iff.mp htext, hwords⟩
  | cons c tail =>
    have hc : isBlank c = false := by
      have hhead := List.head?_dropWhile_not isBlank text
      rwa [htext] at hhead
    let word := (c :: tail).takeWhile fun d => !isBlank d
    let rest := (c :: tail).dropWhile fun d => !isBlank d
    have hcut : word ++ rest = c :: tail := List.takeWhile_append_dropWhile
    have hword : IsWord word := by
      constructor
      · simp [word, hc]
      · intro d hd
        simpa using List.mem_takeWhile_imp hd
    have hrest : EndsWord rest := by
      intro d hd
      have hhead := List.head?_dropWhile_not (fun d => !isBlank d) (c :: tail)
      rw [show ((c :: tail).dropWhile fun d => !isBlank d).head? = some d from hd] at hhead
      simpa using hhead
    rw [htext] at hsplit hwords
    refine Or.inr ⟨text.takeWhile isBlank, word, rest, hblanks, hword, hrest, ?_, ?_⟩
    · rw [hcut, hsplit]
    · rw [hwords, ← hcut, hword.wordsOf_append hrest]

/-! ### Trimming -/

theorem trimStart_blanks {blanks : List Char} (h : AllBlank blanks) (rest : List Char) :
    trimStart (blanks ++ rest) = trimStart rest :=
  List.dropWhile_append_of_pos h

theorem IsWord.trimStart_append {word : List Char} (hw : IsWord word) (rest : List Char) :
    trimStart (word ++ rest) = word ++ rest := by
  cases word with
  | nil => exact absurd rfl hw.ne_nil
  | cons c word =>
    have hc := hw.letters c List.mem_cons_self
    rw [trimStart, List.cons_append, List.dropWhile_cons_of_neg (by simp [hc])]

theorem IsWord.reverse {word : List Char} (hw : IsWord word) : IsWord word.reverse where
  ne_nil := by simp [hw.ne_nil]
  letters c hc := hw.letters c (List.mem_reverse.mp hc)

theorem IsWord.trimOf_eq {word : List Char} (hw : IsWord word) : trimOf word = word := by
  have hstart := hw.trimStart_append []
  have hend := hw.reverse.trimStart_append []
  rw [List.append_nil] at hstart hend
  rw [trimOf, hstart]
  exact (congrArg List.reverse hend).trans (List.reverse_reverse word)

theorem IsWord.trim_eq {word : List Char} (hw : IsWord word) :
    trim (String.ofList word) = String.ofList word := by
  rw [trim, String.toList_ofList, hw.trimOf_eq]

/-! ### Lines -/

theorem linesFrom_of_ne {c : Char} (h : c ≠ '\n') (line rest : List Char) :
    linesFrom line (c :: rest) = linesFrom (c :: line) rest := by
  rw [linesFrom]
  exact h

theorem linesFrom_letters {letters : List Char} (h : ∀ c ∈ letters, c ≠ '\n')
    (line rest : List Char) :
    linesFrom line (letters ++ rest) = linesFrom (letters.reverse ++ line) rest := by
  induction letters generalizing line with
  | nil => rfl
  | cons c letters ih =>
    rw [List.forall_mem_cons] at h
    rw [List.cons_append, linesFrom_of_ne h.1, ih h.2, List.reverse_cons, List.append_assoc,
      List.singleton_append]

theorem mem_closeLine {line : List Char} {c : Char} (h : c ∈ closeLine line) : c ∈ line := by
  unfold closeLine at h
  split at h
  · exact List.mem_cons_of_mem _ (List.mem_reverse.mp h)
  · exact List.mem_reverse.mp h

theorem mem_linesFrom {line text l : List Char} {c : Char} (hl : l ∈ linesFrom line text)
    (hc : c ∈ l) : c ∈ line ∨ c ∈ text := by
  induction text generalizing line with
  | nil =>
    rw [linesFrom] at hl
    split at hl
    · exact absurd hl List.not_mem_nil
    · rw [List.mem_singleton] at hl
      subst hl
      exact Or.inl (List.mem_reverse.mp hc)
  | cons d rest ih =>
    by_cases hd : d = '\n'
    · subst hd
      rw [linesFrom] at hl
      rcases List.mem_cons.mp hl with rfl | hl
      · exact Or.inl (mem_closeLine hc)
      · exact Or.inr (List.mem_cons_of_mem _ ((ih hl).resolve_left List.not_mem_nil))
    · rw [linesFrom_of_ne hd] at hl
      rcases ih hl with hc | hc
      · rcases List.mem_cons.mp hc with rfl | hc
        · exact Or.inr List.mem_cons_self
        · exact Or.inl hc
      · exact Or.inr (List.mem_cons_of_mem d hc)

theorem linesOf_eq_singleton {text : List Char} (hne : text ≠ []) (h : ∀ c ∈ text, c ≠ '\n') :
    linesOf text = [text] := by
  have hlines := linesFrom_letters h [] []
  rw [List.append_nil, List.append_nil] at hlines
  rw [linesOf, hlines, linesFrom, if_neg (by simp [hne]), List.reverse_reverse]

/-- What a line has begun with stays in front of it, up to a carriage return at its end. -/
theorem exists_line_front {c : Char} (hc : c ≠ '\r') (front line text : List Char) :
    ∃ l ∈ linesFrom (line ++ c :: front) text, ∃ tail, l = (c :: front).reverse ++ tail := by
  induction text generalizing line with
  | nil =>
    refine ⟨(line ++ c :: front).reverse, ?_, line.reverse, List.reverse_append⟩
    rw [linesFrom, if_neg (by simp)]
    exact List.mem_singleton_self _
  | cons d rest ih =>
    by_cases hd : d = '\n'
    · subst hd
      rw [linesFrom]
      refine ⟨_, List.mem_cons_self, ?_⟩
      cases line with
      | nil =>
        refine ⟨[], ?_⟩
        rw [List.nil_append, List.append_nil, closeLine]
        intro line heq
        exact absurd (List.cons.inj heq).1 hc
      | cons e line =>
        by_cases he : e = '\r'
        · subst he
          exact ⟨line.reverse, List.reverse_append⟩
        · refine ⟨(e :: line).reverse, ?_⟩
          rw [← List.reverse_append, closeLine]
          intro line heq
          exact absurd (List.cons.inj heq).1 he
    · rw [linesFrom_of_ne hd]
      exact ih (d :: line)

/-- Blanks apart, the first word of a text is the start of a line. -/
theorem exists_line_of_word {blanks word line : List Char} (hb : AllBlank blanks)
    (hw : IsWord word) (hl : AllBlank line) (rest : List Char) :
    ∃ l ∈ linesFrom line (blanks ++ (word ++ rest)), ∃ tail, trimStart l = word ++ tail := by
  induction blanks generalizing line with
  | nil =>
    have hfeed : ∀ c ∈ word, c ≠ '\n' := fun c hc => ne_of_isBlank (hw.letters c hc) (by decide)
    rw [List.nil_append, linesFrom_letters hfeed]
    cases hrev : word.reverse with
    | nil => exact absurd (List.reverse_eq_nil_iff.mp hrev) hw.ne_nil
    | cons c front =>
      have hc : isBlank c = false :=
        hw.letters c (List.mem_reverse.mp (hrev ▸ List.mem_cons_self))
      obtain ⟨l, hmem, tail, hfront⟩ :=
        exists_line_front (ne_of_isBlank hc (by decide)) (front ++ line) [] rest
      refine ⟨l, hmem, tail, ?_⟩
      have hword : (c :: (front ++ line)).reverse = line.reverse ++ word := by
        rw [← List.cons_append, ← hrev, List.reverse_append, List.reverse_reverse]
      have hline : AllBlank line.reverse := fun d hd => hl d (List.mem_reverse.mp hd)
      rw [hfront, hword, List.append_assoc, trimStart_blanks hline, hw.trimStart_append]
  | cons b blanks ih =>
    have hrest : AllBlank blanks := fun d hd => hb d (List.mem_cons_of_mem b hd)
    by_cases hfeed : b = '\n'
    · subst hfeed
      obtain ⟨l, hmem, htail⟩ := ih hrest allBlank_nil
      rw [List.cons_append, linesFrom]
      exact ⟨l, List.mem_cons_of_mem _ hmem, htail⟩
    · rw [List.cons_append, linesFrom_of_ne hfeed]
      refine ih hrest ?_
      intro d hd
      rcases List.mem_cons.mp hd with rfl | hd
      · exact hb d List.mem_cons_self
      · exact hl d hd

end Downlink.Text
