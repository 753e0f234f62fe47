import Mathlib
import Downlink.Proofs.Text.Words

/-!
# Blanks at the ends of a text

Trimming takes away the blanks at either end and stops at the first character that is none.
-/

namespace Downlink.Text

/-- The text without the blanks at its end. -/
def trimEnd (text : List Char) : List Char := (text.reverse.dropWhile isBlank).reverse

theorem trimOf_eq (text : List Char) : trimOf text = trimEnd (trimStart text) := rfl

theorem mem_of_mem_trimOf {text : List Char} {c : Char} (h : c ∈ trimOf text) : c ∈ text := by
  rw [trimOf_eq, trimEnd, List.mem_reverse] at h
  have hstart : c ∈ trimStart text := List.mem_reverse.mp ((List.dropWhile_suffix _).subset h)
  exact (List.dropWhile_suffix _).subset hstart

theorem trimOf_trimStart (text : List Char) : trimOf (trimStart text) = trimOf text := by
  rw [trimOf_eq, trimOf_eq, trimStart, trimStart, List.dropWhile_idempotent]

theorem trimStart_append_cons (front rest : List Char) {c : Char} (h : isBlank c = false) :
    trimStart (front ++ c :: rest) = trimStart front ++ c :: rest := by
  have hstop : (c :: rest).dropWhile isBlank = c :: rest :=
    List.dropWhile_cons_of_neg (by simp [h])
  rw [trimStart, List.dropWhile_append, hstop, trimStart]
  split
  · next hempty => rw [List.isEmpty_iff.mp hempty, List.nil_append]
  · rfl

theorem trimEnd_append_cons (front rest : List Char) {c : Char} (h : isBlank c = false) :
    trimEnd (front ++ c :: rest) = front ++ c :: trimEnd rest := by
  have hfront := trimStart_append_cons rest.reverse front.reverse h
  unfold trimStart at hfront
  rw [trimEnd, List.reverse_append, List.reverse_cons, List.append_assoc, List.singleton_append,
    hfront, List.reverse_append, List.reverse_cons, List.reverse_reverse, List.append_assoc]
  rfl

theorem trimEnd_append_blanks (text : List Char) {blanks : List Char} (h : AllBlank blanks) :
    trimEnd (text ++ blanks) = trimEnd text := by
  have hrev : ∀ c ∈ blanks.reverse, isBlank c = true := fun c hc => h c (List.mem_reverse.mp hc)
  rw [trimEnd, List.reverse_append, List.dropWhile_append_of_pos hrev, trimEnd]

theorem exists_trimEnd_append (text : List Char) :
    ∃ blanks, AllBlank blanks ∧ text = trimEnd text ++ blanks := by
  refine ⟨(text.reverse.takeWhile isBlank).reverse, ?_, ?_⟩
  · intro c hc
    exact List.mem_takeWhile_imp (List.mem_reverse.mp hc)
  · rw [trimEnd, ← List.reverse_append, List.takeWhile_append_dropWhile, List.reverse_reverse]

/-- Blanks at either end make no difference to what is left. -/
theorem trimOf_append_blanks (text : List Char) {front back : List Char} (hf : AllBlank front)
    (hb : AllBlank back) : trimOf (front ++ (text ++ back)) = trimOf text := by
  rw [trimOf_eq, trimOf_eq, trimStart_blanks hf, trimStart, trimStart, List.dropWhile_append]
  split
  · next hempty =>
    rw [List.isEmpty_iff.mp hempty, List.dropWhile_eq_nil_iff.mpr hb]
  · rw [trimEnd_append_blanks _ hb]

theorem head?_trimOf (text : List Char) : (trimOf text).head? = (trimStart text).head? := by
  rw [trimOf_eq]
  cases htext : trimStart text with
  | nil => rfl
  | cons c rest =>
    have hc : isBlank c = false := by
      have hhead := List.head?_dropWhile_not isBlank text
      rwa [show (text.dropWhile isBlank).head? = some c by rw [← trimStart, htext]; rfl] at hhead
    have hstop := trimEnd_append_cons [] rest hc
    rw [List.nil_append, List.nil_append] at hstop
    rw [hstop, List.head?_cons, List.head?_cons]

end Downlink.Text
