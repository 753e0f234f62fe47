import Mathlib
import Downlink.Decimal.Fixed
import Downlink.Decimal.Reading
import Downlink.Proofs.Text.Words

/-!
# Reading what was written

A whole number that was written reads back. A value that was written with a fixed number of places
reads as some number, be it infinite or none at all.
-/

namespace Downlink.Decimal

/-- There is nothing but digits. -/
def AllDigits (text : List Char) : Prop := ∀ c ∈ text, c.isDigit = true

theorem isDigit_bounds {c : Char} (h : c.isDigit = true) : 48 ≤ c.toNat ∧ c.toNat ≤ 57 := by
  simp only [Char.isDigit, Bool.and_eq_true, decide_eq_true_eq] at h
  exact ⟨UInt32.le_iff_toNat_le.mp h.1, UInt32.le_iff_toNat_le.mp h.2⟩

theorem isBlank_of_isDigit {c : Char} (h : c.isDigit = true) : Text.isBlank c = false := by
  have hc := isDigit_bounds h
  simp only [Text.isBlank, Bool.or_eq_false_iff, Bool.and_eq_false_iff, decide_eq_false_iff_not,
    beq_eq_false_iff_ne]
  omega

theorem ne_of_isDigit {c d : Char} (hc : c.isDigit = true) (hd : d.isDigit = false) : c ≠ d := by
  rintro rfl
  exact Bool.noConfusion (hc.symm.trans hd)

/-! ### Whole numbers -/

theorem toList_toString (n : Nat) : (toString n).toList = Nat.toDigits 10 n := Nat.toList_repr

theorem allDigits_toDigits (n : Nat) : AllDigits (Nat.toDigits 10 n) :=
  fun _ hc => Nat.isDigit_of_mem_toDigits (by decide) (by decide) hc

theorem digitsValue_eq (acc : Nat) (digits : List Char) :
    digitsValue acc digits = Nat.ofDigitChars 10 digits acc := by
  unfold digitsValue Nat.ofDigitChars
  simp only [Nat.mul_comm]

theorem natural?_toDigits (n : Nat) : natural? (Nat.toDigits 10 n) = some n := by
  have hall : (Nat.toDigits 10 n).all Char.isDigit = true :=
    List.all_eq_true.mpr (allDigits_toDigits n)
  have hsome : (Nat.toDigits 10 n).isEmpty = false := by
    simp [Nat.toDigits_ne_nil]
  rw [natural?, hall, hsome, digitsValue_eq, Nat.ofDigitChars_toDigits (by decide) (by decide)]
  rfl

theorem unsigned?_toString {bound n : Nat} (h : n < bound) :
    unsigned? bound (toString n) = some n := by
  have hplus : ∀ rest, Nat.toDigits 10 n ≠ '+' :: rest := by
    intro rest heq
    have hdigit := allDigits_toDigits n '+' (heq ▸ List.mem_cons_self)
    exact Bool.noConfusion hdigit
  rw [unsigned?, toList_toString]
  split
  · next rest heq => exact absurd heq (hplus rest)
  · rw [natural?_toDigits, Option.filter_some, if_pos (by simpa using h)]

/-! ### Digits around a point -/

theorem takeWhile_digits {digits : List Char} (hd : AllDigits digits) (rest : List Char)
    (hr : ∀ c ∈ rest.head?, c.isDigit = false) :
    (digits ++ rest).takeWhile Char.isDigit = digits ∧
      (digits ++ rest).dropWhile Char.isDigit = rest := by
  rw [List.takeWhile_append_of_pos hd, List.dropWhile_append_of_pos hd]
  cases rest with
  | nil => exact ⟨List.append_nil digits, rfl⟩
  | cons c rest =>
    have hc : ¬ c.isDigit = true := by
      simp [hr c rfl]
    rw [List.takeWhile_cons_of_neg hc, List.dropWhile_cons_of_neg hc, List.append_nil]
    exact ⟨rfl, rfl⟩

theorem digits?_whole {whole : List Char} (hne : whole ≠ []) (hw : AllDigits whole) :
    digits? whole = some (.finite (digitsValue 0 whole) 0) := by
  obtain ⟨htake, hdrop⟩ := takeWhile_digits hw [] (by simp)
  rw [List.append_nil] at htake hdrop
  have hsome : whole.isEmpty = false := by
    simp [hne]
  simp [digits?, htake, hdrop, hsome, exponent?, digitsValue]

theorem digits?_pointed {whole fraction : List Char} (hne : whole ≠ []) (hw : AllDigits whole)
    (hf : AllDigits fraction) :
    digits? (whole ++ '.' :: fraction) =
      some (.finite (digitsValue (digitsValue 0 whole) fraction) (-fraction.length)) := by
  obtain ⟨htake, hdrop⟩ := takeWhile_digits hw ('.' :: fraction) (by simp)
  obtain ⟨hfraction, hend⟩ := takeWhile_digits hf [] (by simp)
  rw [List.append_nil] at hfraction hend
  have hsome : whole.isEmpty = false := by
    simp [hne]
  simp [digits?, htake, hdrop, hfraction, hend, hsome, exponent?]

/-- Digits, with a point and more digits behind them or not. -/
inductive IsPointed : List Char → Prop where
  | whole (whole : List Char) (hne : whole ≠ []) (hw : AllDigits whole) : IsPointed whole
  | fraction (whole fraction : List Char) (hne : whole ≠ []) (hw : AllDigits whole)
    (hf : AllDigits fraction) : IsPointed (whole ++ '.' :: fraction)

theorem isPointed_pointed (places units : Nat) : IsPointed (pointed places units).toList := by
  unfold pointed
  by_cases hplaces : places = 0
  · rw [if_pos hplaces, toList_toString]
    exact .whole _ Nat.toDigits_ne_nil (allDigits_toDigits units)
  · have hfraction : AllDigits
        (List.replicate (places - (toString (units % tenTo places)).length) '0' ++
          Nat.toDigits 10 (units % tenTo places)) := by
      intro c hc
      rcases List.mem_append.mp hc with hc | hc
      · rw [List.eq_of_mem_replicate hc]
        rfl
      · exact allDigits_toDigits _ c hc
    rw [if_neg hplaces]
    simp only [String.toList_append, String.toList_ofList, toList_toString, List.append_assoc]
    exact .fraction _ _ Nat.toDigits_ne_nil (allDigits_toDigits _) hfraction

theorem IsPointed.isSome_digits? {text : List Char} (h : IsPointed text) :
    (digits? text).isSome = true := by
  cases h with
  | whole _ hne hw => rw [digits?_whole hne hw, Option.isSome_some]
  | fraction whole fraction hne hw hf => rw [digits?_pointed hne hw hf, Option.isSome_some]

theorem IsPointed.exists_cons {text : List Char} (h : IsPointed text) :
    ∃ c rest, text = c :: rest ∧ c.isDigit = true := by
  cases h with
  | whole _ hne hw =>
    obtain ⟨c, rest, rfl⟩ := List.exists_cons_of_ne_nil hne
    exact ⟨c, rest, rfl, hw c List.mem_cons_self⟩
  | fraction whole fraction hne hw hf =>
    obtain ⟨c, rest, rfl⟩ := List.exists_cons_of_ne_nil hne
    exact ⟨c, rest ++ '.' :: fraction, rfl, hw c List.mem_cons_self⟩

theorem IsPointed.chars {text : List Char} (h : IsPointed text) :
    ∀ c ∈ text, c.isDigit = true ∨ c = '.' := by
  cases h with
  | whole _ hne hw => exact fun c hc => Or.inl (hw c hc)
  | fraction whole fraction hne hw hf =>
    intro c hc
    rcases List.mem_append.mp hc with hc | hc
    · exact Or.inl (hw c hc)
    · rcases List.mem_cons.mp hc with hc | hc
      · exact Or.inr hc
      · exact Or.inl (hf c hc)

/-! ### Values with a fixed number of places -/

theorem isSome_magnitude? {text : List Char} (h : (digits? text).isSome = true) :
    (magnitude? text).isSome = true := by
  rw [magnitude?]
  split
  · rfl
  · split
    · rfl
    · exact h

theorem IsPointed.splitSign_eq {text : List Char} (h : IsPointed text) (negative : Bool) :
    splitSign ((if negative then ['-'] else []) ++ text) = (negative, text) := by
  cases negative with
  | true => rfl
  | false =>
    obtain ⟨c, rest, rfl, hc⟩ := h.exists_cons
    show splitSign (c :: rest) = _
    rw [splitSign]
    · exact fun rest heq => ne_of_isDigit hc (by decide) (List.cons.inj heq).1
    · exact fun rest heq => ne_of_isDigit hc (by decide) (List.cons.inj heq).1

theorem IsPointed.isSome_ofChars? {text : List Char} (h : IsPointed text) (negative : Bool) :
    (Literal.ofChars? ((if negative then ['-'] else []) ++ text)).isSome = true := by
  have hmagnitude := isSome_magnitude? h.isSome_digits?
  rw [Literal.ofChars?, h.splitSign_eq, Option.isSome_map, hmagnitude]

theorem fixed_notANumber (places : Nat) : Value.notANumber.fixed places = "NaN" :=
  String.empty_append

theorem fixed_infinite (places : Nat) (negative : Bool) :
    (Value.infinite negative).fixed places = if negative then "-inf" else "inf" := by
  cases negative with
  | true =>
    show "-" ++ "inf" = "-inf"
    decide
  | false => exact String.empty_append

theorem toList_fixed_finite (places : Nat) (negative : Bool) (significand : Nat) (exponent : Int) :
    ((Value.finite negative significand exponent).fixed places).toList =
      (if negative then ['-'] else []) ++
        (pointed places (scaled places significand exponent)).toList := by
  rw [Value.fixed, Value.fixedParts, String.toList_append]
  cases negative with
  | true => simp
  | false => simp

theorem isSome_ofChars?_fixed (places : Nat) (v : Value) :
    (Literal.ofChars? (v.fixed places).toList).isSome = true := by
  cases v with
  | notANumber =>
    rw [fixed_notANumber]
    decide
  | infinite negative =>
    rw [fixed_infinite]
    cases negative <;> decide
  | finite negative significand exponent =>
    rw [toList_fixed_finite]
    exact (isPointed_pointed places _).isSome_ofChars? negative

/-- A character that neither separates words nor keys from values. -/
def isPlain (c : Char) : Bool := !Text.isBlank c && c != '='

theorem isPlain_iff (c : Char) : isPlain c = true ↔ Text.isBlank c = false ∧ c ≠ '=' := by
  rw [isPlain, Bool.and_eq_true, Bool.not_eq_true', bne_iff_ne]

theorem isPlain_of_isDigit {c : Char} (h : c.isDigit = true) : isPlain c = true :=
  (isPlain_iff c).mpr ⟨isBlank_of_isDigit h, ne_of_isDigit h (by decide)⟩

theorem isPlain_fixed (places : Nat) (v : Value) :
    (v.fixed places).toList ≠ [] ∧ (v.fixed places).toList.all isPlain = true := by
  cases v with
  | notANumber =>
    rw [fixed_notANumber]
    decide
  | infinite negative =>
    rw [fixed_infinite]
    cases negative <;> decide
  | finite negative significand exponent =>
    have hpointed := isPointed_pointed places (scaled places significand exponent)
    have hsign : (if negative then ['-'] else []).all isPlain = true := by
      cases negative <;> decide
    have hdigits : (pointed places (scaled places significand exponent)).toList.all isPlain = true := by
      rw [List.all_eq_true]
      intro c hc
      rcases hpointed.chars c hc with hdigit | hpoint
      · exact isPlain_of_isDigit hdigit
      · rw [hpoint]
        decide
    rw [toList_fixed_finite, List.all_append, hsign, hdigits]
    obtain ⟨c, rest, htext, -⟩ := hpointed.exists_cons
    exact ⟨by simp [htext], rfl⟩

end Downlink.Decimal
