import Mathlib
import Downlink.Proofs.Text.Trimming

/-!
# Changes inside a text

Words and lines are changed where they stand: the blanks between words and the line feeds between
lines are kept.
-/

namespace Downlink.Text

/-! ### Between blanks -/

/-- Puts `core` in the place of what trimming leaves of a text. -/
def replaceTrimmed (core text : List Char) : List Char :=
  text.takeWhile isBlank ++ (core ++ ((trimStart text).reverse.takeWhile isBlank).reverse)

theorem exists_replaceTrimmed (core text : List Char) :
    ∃ front back, AllBlank front ∧ AllBlank back ∧
      replaceTrimmed core text = front ++ (core ++ back) := by
  refine ⟨_, _, ?_, ?_, rfl⟩
  · exact fun c hc => List.mem_takeWhile_imp hc
  · exact fun c hc => List.mem_takeWhile_imp (List.mem_reverse.mp hc)

theorem mem_replaceTrimmed {core text : List Char} {c : Char}
    (h : c ∈ replaceTrimmed core text) : c ∈ text ∨ c ∈ core := by
  rw [replaceTrimmed, List.mem_append, List.mem_append, List.mem_reverse] at h
  rcases h with h | h | h
  · exact Or.inl ((List.takeWhile_prefix _).subset h)
  · exact Or.inr h
  · have hstart := List.mem_reverse.mp ((List.takeWhile_prefix _).subset h)
    exact Or.inl ((List.dropWhile_suffix _).subset hstart)

theorem takeWhile_isBlank_eq_nil {text : List Char} (h : ∀ c ∈ text, isBlank c = false) :
    text.takeWhile isBlank = [] := by
  cases text with
  | nil => rfl
  | cons c rest => exact List.takeWhile_cons_of_neg (by simp [h c List.mem_cons_self])

theorem IsWord.replaceTrimmed_eq {word : List Char} (h : IsWord word) (core : List Char) :
    replaceTrimmed core word = core := by
  have hstart := h.trimStart_append []
  rw [List.append_nil] at hstart
  rw [replaceTrimmed, hstart, takeWhile_isBlank_eq_nil h.letters,
    takeWhile_isBlank_eq_nil h.reverse.letters]
  simp

/-! ### Words -/

/-- Changes each word by its number; `word` is the word at hand, in reverse. -/
def editWordsFrom (edit : Nat → List Char → List Char) (n : Nat) (word : List Char) :
    List Char → List Char
  | [] => if word.isEmpty then [] else edit n word.reverse
  | c :: rest =>
    if isBlank c then
      if word.isEmpty then c :: editWordsFrom edit n [] rest
      else edit n word.reverse ++ c :: editWordsFrom edit (n + 1) [] rest
    else editWordsFrom edit n (c :: word) rest

/-- Changes each word of a text by its number. -/
def editWords (edit : Nat → List Char → List Char) (text : List Char) : List Char :=
  editWordsFrom edit 0 [] text

theorem isWord_reverse_of {word : List Char} (hne : ¬ word.isEmpty = true)
    (h : ∀ c ∈ word, isBlank c = false) : IsWord word.reverse where
  ne_nil := by simpa using hne
  letters c hc := h c (List.mem_reverse.mp hc)

theorem wordsOf_editWordsFrom {edit : Nat → List Char → List Char}
    (hedit : ∀ n word, IsWord word → IsWord (edit n word)) (n : Nat) (word text : List Char)
    (hword : ∀ c ∈ word, isBlank c = false) :
    wordsOf (editWordsFrom edit n word text) =
      (wordsFrom word text).mapIdx fun i => edit (n + i) := by
  induction text generalizing n word with
  | nil =>
    rw [editWordsFrom, wordsFrom]
    split
    · rfl
    · next hne =>
      have hone := (hedit n _ (isWord_reverse_of hne hword)).wordsOf_append endsWord_nil
      rw [List.append_nil] at hone
      rw [hone]
      rfl
  | cons c rest ih =>
    have hfresh := fun m => ih m [] (by simp)
    cases hc : isBlank c with
    | true =>
      have hblank : AllBlank [c] := allBlank_singleton hc
      have hends : ∀ more, EndsWord (c :: more) := fun more =>
        endsWord_blanks (List.cons_ne_nil c []) hblank more
      have hskip : ∀ more, wordsOf (c :: more) = wordsOf more := wordsOf_blanks hblank
      rw [editWordsFrom, if_pos hc, wordsFrom_blank _ _ _ hc]
      split
      · rw [hskip, hfresh]
      · next hne =>
        have hshift : ∀ i, n + 1 + i = n + (i + 1) := by omega
        rw [(hedit n _ (isWord_reverse_of hne hword)).wordsOf_append (hends _), hskip, hfresh,
          List.mapIdx_cons]
        simp only [hshift, Nat.add_zero]
    | false =>
      have hnext : ∀ d ∈ c :: word, isBlank d = false := by
        intro d hd
        rcases List.mem_cons.mp hd with rfl | hd
        · exact hc
        · exact hword d hd
      rw [editWordsFrom, if_neg (by simp [hc]), ih n (c :: word) hnext, wordsFrom_letter _ _ _ hc]

/-- The words of a changed text are its words, changed. -/
theorem wordsOf_editWords {edit : Nat → List Char → List Char}
    (hedit : ∀ n word, IsWord word → IsWord (edit n word)) (text : List Char) :
    wordsOf (editWords edit text) = (wordsOf text).mapIdx edit := by
  have hwords := wordsOf_editWordsFrom hedit 0 [] text (by simp)
  simp only [Nat.zero_add] at hwords
  exact hwords

/-! ### Lines -/

/-- Changes each part between line feeds. -/
def editLines (edit : List Char → List Char) (text : List Char) : List Char :=
  ['\n'].intercalate ((text.splitOn '\n').map edit)

theorem not_mem_of_mem_splitOn {a : Char} {text part : List Char}
    (h : part ∈ text.splitOn a) : a ∉ part := by
  induction text generalizing part with
  | nil =>
    rw [List.splitOn_nil, List.mem_singleton] at h
    rw [h]
    exact List.not_mem_nil
  | cons c rest ih =>
    obtain ⟨first, others, hrest⟩ := List.exists_cons_of_ne_nil (List.splitOn_ne_nil a rest)
    rw [List.splitOn_cons_eq_if_modifyHead, hrest] at h
    split at h
    · rcases List.mem_cons.mp h with rfl | h
      · exact List.not_mem_nil
      · exact ih (hrest ▸ h)
    · next hne =>
      rcases List.mem_cons.mp h with rfl | h
      · intro hmem
        rcases List.mem_cons.mp hmem with rfl | hmem
        · exact hne (by simp)
        · exact ih (hrest ▸ List.mem_cons_self) hmem
      · exact ih (hrest ▸ List.mem_cons_of_mem first h)

theorem splitOn_editLines {edit : List Char → List Char}
    (hedit : ∀ part, '\n' ∉ part → '\n' ∉ edit part) (text : List Char) :
    (editLines edit text).splitOn '\n' = (text.splitOn '\n').map edit := by
  refine List.splitOn_intercalate '\n' ?_ (by simp [List.splitOn_ne_nil])
  intro part hpart
  obtain ⟨whole, hwhole, rfl⟩ := List.mem_map.mp hpart
  exact hedit whole (not_mem_of_mem_splitOn hwhole)

theorem closeLine_cases (line : List Char) :
    line.reverse = closeLine line ∨ line.reverse = closeLine line ++ ['\r'] := by
  unfold closeLine
  split
  · exact Or.inr List.reverse_cons
  · exact Or.inl rfl

/-- Steps that pay no attention to an empty line, nor to a carriage return at the end of a line, can
take the parts between line feeds for the lines. -/
theorem foldlM_linesFrom {σ ε : Type} {step : σ → List Char → Except ε σ}
    (hreturn : ∀ s line, step s (line ++ ['\r']) = step s line) (hnil : ∀ s, step s [] = .ok s)
    (s : σ) (line text : List Char) :
    (linesFrom line text).foldlM step s =
      (List.splitOnPPrepend (· == '\n') text line).foldlM step s := by
  induction text generalizing s line with
  | nil =>
    rw [linesFrom, List.splitOnPPrepend_nil]
    split
    · next hempty =>
      rw [List.isEmpty_iff.mp hempty, List.reverse_nil, List.foldlM_cons, hnil]
      rfl
    · rfl
  | cons c rest ih =>
    by_cases hc : c = '\n'
    · subst hc
      have hclose : step s (closeLine line) = step s line.reverse := by
        rcases closeLine_cases line with hline | hline
        · rw [hline]
        · rw [hline, hreturn]
      rw [linesFrom, List.splitOnPPrepend_cons_pos (by rfl), List.foldlM_cons, List.foldlM_cons,
        hclose]
      exact bind_congr fun next => ih next []
    · rw [linesFrom_of_ne hc, List.splitOnPPrepend_cons_neg (by simpa using hc)]
      exact ih s (c :: line)

theorem foldlM_linesOf {σ ε : Type} {step : σ → List Char → Except ε σ}
    (hreturn : ∀ s line, step s (line ++ ['\r']) = step s line) (hnil : ∀ s, step s [] = .ok s)
    (s : σ) (text : List Char) :
    (linesOf text).foldlM step s = (text.splitOn '\n').foldlM step s := by
  rw [linesOf, foldlM_linesFrom hreturn hnil]
  rfl

end Downlink.Text
