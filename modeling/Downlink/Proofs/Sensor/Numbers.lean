import Mathlib
import Downlink.Sensor.Line
import Downlink.Proofs.Decimal.Places

/-!
# Numbers in front of tokens

A token that is no number counts by what stands in front: a sign, digits and points, as many of them
as there are. With one point at most, that is the longest number in front, words and exponents left
aside. With more points it is no number, and the token counts as zero.
-/

namespace Downlink

namespace Decimal

/-! ### Digits and points -/

/-- Digits and points only. -/
def IsPointRun (text : List Char) : Prop := ∀ c ∈ text, c.isDigit = true ∨ c = '.'

theorem isPointRun_append {front rest : List Char} :
    IsPointRun (front ++ rest) ↔ IsPointRun front ∧ IsPointRun rest := List.forall_mem_append

theorem count_point_of_digits {digits : List Char} (h : AllDigits digits) :
    digits.count '.' = 0 := by
  rw [List.count_eq_zero]
  exact fun hmem => Bool.noConfusion (h '.' hmem)

theorem IsPointRun.digits_or_point {text : List Char} (h : IsPointRun text) :
    AllDigits text ∨ ∃ digits rest, text = digits ++ '.' :: rest ∧ AllDigits digits := by
  induction text with
  | nil => exact Or.inl fun c hc => absurd hc List.not_mem_nil
  | cons c text ih =>
    obtain ⟨hc, htext⟩ := List.forall_mem_cons.mp h
    rcases hc with hdigit | rfl
    · rcases ih htext with hall | ⟨digits, rest, rfl, hall⟩
      · exact Or.inl (List.forall_mem_cons.mpr ⟨hdigit, hall⟩)
      · exact Or.inr ⟨c :: digits, rest, rfl, List.forall_mem_cons.mpr ⟨hdigit, hall⟩⟩
    · exact Or.inr ⟨[], text, rfl, fun c hc => absurd hc List.not_mem_nil⟩

theorem exists_digit_iff {digits : List Char} (h : AllDigits digits) :
    (∃ c ∈ digits, c.isDigit = true) ↔ digits ≠ [] := by
  constructor
  · rintro ⟨c, hc, -⟩ rfl
    exact absurd hc List.not_mem_nil
  · intro hne
    obtain ⟨c, hc⟩ := List.exists_mem_of_ne_nil digits hne
    exact ⟨c, hc, h c hc⟩

theorem digits?_point {whole : List Char} (hw : AllDigits whole) (rest : List Char) :
    digits? (whole ++ '.' :: rest) =
      if whole.isEmpty && (rest.takeWhile Char.isDigit).isEmpty then none
      else (exponent? (rest.dropWhile Char.isDigit)).map fun e =>
        .finite (digitsValue (digitsValue 0 whole) (rest.takeWhile Char.isDigit))
          (e - (rest.takeWhile Char.isDigit).length) := by
  obtain ⟨htake, hdrop⟩ := takeWhile_digits hw ('.' :: rest) (by simp)
  rw [digits?, htake, hdrop]
  rfl

/-- A text of digits and points is a number if it has a digit and no second point. -/
theorem IsPointRun.isSome_digits?_iff {text : List Char} (h : IsPointRun text) :
    (digits? text).isSome = true ↔ text.count '.' ≤ 1 ∧ ∃ c ∈ text, c.isDigit = true := by
  rcases h.digits_or_point with hall | ⟨whole, rest, rfl, hw⟩
  · rw [count_point_of_digits hall, exists_digit_iff hall]
    by_cases hne : text = []
    · subst hne
      simp [digits?]
    · simp [digits?_whole hne hall, hne]
  · have hrest : IsPointRun rest := (List.forall_mem_cons.mp (isPointRun_append.mp h).2).2
    rw [digits?_point hw, List.count_append, count_point_of_digits hw, List.count_cons_self]
    rcases hrest.digits_or_point with hf | ⟨fraction, more, rfl, hf⟩
    · obtain ⟨htake, hdrop⟩ := takeWhile_digits hf [] (by simp)
      rw [List.append_nil] at htake hdrop
      have hdigit : (∃ c ∈ whole ++ '.' :: rest, c.isDigit = true) ↔ whole ≠ [] ∨ rest ≠ [] := by
        rw [← exists_digit_iff hw, ← exists_digit_iff hf]
        simp [or_and_right, exists_or]
      rw [htake, hdrop, count_point_of_digits hf, hdigit]
      cases whole <;> cases rest <;> simp [exponent?]
    · -- What stands behind the digits of the fraction is a second point, and no exponent.
      obtain ⟨htake, hdrop⟩ := takeWhile_digits hf ('.' :: more) (by simp)
      rw [htake, hdrop, List.count_append, count_point_of_digits hf, List.count_cons_self]
      have hnone : exponent? ('.' :: more) = none := by simp [exponent?]
      rw [hnone, Option.map_none, ite_self]
      simp

theorem IsPointRun.magnitude?_eq {text : List Char} (h : IsPointRun text) :
    magnitude? text = digits? text := by
  -- Every word has an n.
  have hletter : 'n' ∉ text.map Char.toLower := by
    intro hmem
    obtain ⟨c, hc, hlower⟩ := List.mem_map.mp hmem
    rcases h c hc with hdigit | rfl
    · rw [toLower_of_isDigit hdigit] at hlower
      exact ne_of_isDigit hdigit (by decide) hlower
    · exact absurd hlower (by decide)
  have hword : ∀ word : String, 'n' ∈ word.toList → text.map Char.toLower ≠ word.toList :=
    fun word hmem heq => hletter (heq ▸ hmem)
  rw [magnitude?]
  simp only [hword "inf" (by decide), hword "infinity" (by decide), hword "nan" (by decide)]
  rfl

/-! ### Signs -/

/-- A character that may stand in front of digits. -/
def IsSign (c : Char) : Prop := c = '-' ∨ c = '+'

theorem splitSign_sign {c : Char} (h : IsSign c) (rest : List Char) :
    (splitSign (c :: rest)).2 = rest := by
  rcases h with rfl | rfl
  · rfl
  · rfl

theorem splitSign_of_unsigned {text : List Char} (h : ∀ c ∈ text.head?, ¬IsSign c) :
    (splitSign text).2 = text := by
  cases text with
  | nil => rfl
  | cons c rest =>
    have hc : ¬(c = '-' ∨ c = '+') := h c rfl
    rw [splitSign]
    · exact fun _ heq => hc (Or.inl (List.cons.inj heq).1)
    · exact fun _ heq => hc (Or.inr (List.cons.inj heq).1)

theorem signed_or_unsigned (text : List Char) :
    (∃ c rest, text = c :: rest ∧ IsSign c) ∨ ∀ c ∈ text.head?, ¬IsSign c := by
  cases text with
  | nil => exact Or.inr fun c hc => absurd hc (by simp)
  | cons c rest =>
    by_cases hc : IsSign c
    · exact Or.inl ⟨c, rest, rfl, hc⟩
    · exact Or.inr fun d hd => Option.some.inj hd ▸ hc

/-- A sign, perhaps, and then digits and points only: neither a word nor an exponent. -/
def IsPlainText (text : List Char) : Prop := IsPointRun (splitSign text).2

instance : DecidablePred IsPlainText := fun text => List.decidableBAll _ (splitSign text).2

theorem count_splitSign (text : List Char) : text.count '.' = (splitSign text).2.count '.' := by
  rcases signed_or_unsigned text with ⟨c, rest, rfl, hc⟩ | h
  · have hpoint : c ≠ '.' := by rcases hc with rfl | rfl <;> decide
    rw [splitSign_sign hc, List.count_cons_of_ne hpoint]
  · rw [splitSign_of_unsigned h]

theorem exists_digit_splitSign (text : List Char) :
    (∃ c ∈ text, c.isDigit = true) ↔ ∃ c ∈ (splitSign text).2, c.isDigit = true := by
  rcases signed_or_unsigned text with ⟨c, rest, rfl, hc⟩ | h
  · have hdigit : c.isDigit = false := by rcases hc with rfl | rfl <;> decide
    rw [splitSign_sign hc]
    simp [hdigit]
  · rw [splitSign_of_unsigned h]

theorem IsPlainText.isSome_ofChars?_iff {text : List Char} (h : IsPlainText text) :
    (Literal.ofChars? text).isSome = true ↔
      text.count '.' ≤ 1 ∧ ∃ c ∈ text, c.isDigit = true := by
  rw [count_splitSign, exists_digit_splitSign, ← IsPointRun.isSome_digits?_iff h,
    ← IsPointRun.magnitude?_eq h, Literal.ofChars?, Option.isSome_map]

end Decimal

open Decimal (IsPointRun IsPlainText IsSign Literal splitSign)

namespace Sensor

/-! ### What stands in front of a token -/

/-- The longest text in front of a token with a property. -/
structure IsLongestFront (property : List Char → Prop) (token front : List Char) : Prop where
  isPrefix : front <+: token
  holds : property front
  longest : ∀ other, other <+: token → property other → other.length ≤ front.length

instance (property : List Char → Prop) [DecidablePred property] (token front : List Char) :
    Decidable (IsLongestFront property token front) :=
  decidable_of_iff (front <+: token ∧ property front ∧
      ∀ other ∈ token.inits, property other → other.length ≤ front.length)
    ⟨fun ⟨hfront, hholds, hlongest⟩ =>
        ⟨hfront, hholds, fun other h => hlongest other ((List.mem_inits _ _).mpr h)⟩,
      fun ⟨hfront, hholds, hlongest⟩ =>
        ⟨hfront, hholds, fun other h => hlongest other ((List.mem_inits _ _).mp h)⟩⟩

/-- Digits and points go on with a number. -/
def inRun (c : Char) : Bool := c.isDigit || c == '.'

theorem inRun_iff (c : Char) : inRun c = true ↔ c.isDigit = true ∨ c = '.' := by
  rw [inRun, Bool.or_eq_true, beq_iff_eq]

theorem isPointRun_takeWhile (text : List Char) : IsPointRun (text.takeWhile inRun) :=
  fun c hc => (inRun_iff c).mp (List.mem_takeWhile_imp hc)

theorem prefix_takeWhile {front text : List Char} (h : front <+: text) (hrun : IsPointRun front) :
    front <+: text.takeWhile inRun := by
  obtain ⟨rest, rfl⟩ := h
  rw [List.takeWhile_append_of_pos fun c hc => (inRun_iff c).mpr (hrun c hc)]
  exact List.prefix_append front _

theorem numberSpan_sign {c : Char} (h : IsSign c) (rest : List Char) :
    numberSpan (c :: rest) = c :: rest.takeWhile inRun := by
  rcases h with rfl | rfl
  · rfl
  · rfl

theorem numberSpan_of_unsigned {text : List Char} (h : ∀ c ∈ text.head?, ¬IsSign c) :
    numberSpan text = text.takeWhile inRun := by
  cases text with
  | nil => rfl
  | cons c rest =>
    have hc : ¬(c = '-' ∨ c = '+') := h c rfl
    have hsign : (c == '-') = false ∧ (c == '+') = false := by simpa using hc
    rw [numberSpan, List.takeWhile_cons, hsign.1, hsign.2, Bool.or_false, Bool.or_false]
    rfl

/-- A plain text in front of a token lies within the run that is scanned. -/
theorem prefix_numberSpan {token front : List Char} (h : front <+: token)
    (hplain : IsPlainText front) : front <+: numberSpan token := by
  rcases Decimal.signed_or_unsigned token with ⟨c, rest, rfl, hc⟩ | hunsigned
  · rw [numberSpan_sign hc]
    cases front with
    | nil => exact List.nil_prefix
    | cons d front =>
      obtain ⟨rfl, hrest⟩ := List.cons_prefix_cons.mp h
      have hrun : IsPointRun front := by
        rw [IsPlainText, Decimal.splitSign_sign hc] at hplain
        exact hplain
      exact List.cons_prefix_cons.mpr ⟨rfl, prefix_takeWhile hrest hrun⟩
  · have hfront : ∀ c ∈ front.head?, ¬IsSign c := by
      intro c hc
      obtain ⟨rest, rfl⟩ := h
      exact hunsigned c (List.mem_head?_append_of_mem_head? hc)
    rw [numberSpan_of_unsigned hunsigned]
    rw [IsPlainText, Decimal.splitSign_of_unsigned hfront] at hplain
    exact prefix_takeWhile h hplain

theorem isPlainText_numberSpan (token : List Char) : IsPlainText (numberSpan token) := by
  rcases Decimal.signed_or_unsigned token with ⟨c, rest, rfl, hc⟩ | hunsigned
  · rw [numberSpan_sign hc, IsPlainText, Decimal.splitSign_sign hc]
    exact isPointRun_takeWhile rest
  · have hrun := isPointRun_takeWhile token
    have hspan : ∀ c ∈ (token.takeWhile inRun).head?, ¬IsSign c := by
      intro c hc
      have hinside := hrun c (List.mem_of_mem_head? hc)
      rintro (rfl | rfl)
      · exact absurd hinside (by decide)
      · exact absurd hinside (by decide)
    rw [numberSpan_of_unsigned hunsigned, IsPlainText, Decimal.splitSign_of_unsigned hspan]
    exact hrun

theorem numberSpan_isPrefix (token : List Char) : numberSpan token <+: token := by
  rcases Decimal.signed_or_unsigned token with ⟨c, rest, rfl, hc⟩ | hunsigned
  · rw [numberSpan_sign hc]
    exact List.cons_prefix_cons.mpr ⟨rfl, List.takeWhile_prefix _⟩
  · rw [numberSpan_of_unsigned hunsigned]
    exact List.takeWhile_prefix _

/-! ### What a token stands for -/

theorem number_of_literal {token : List Char} {l : Literal}
    (h : Literal.ofChars? token = some l) : number token = l.toFloat32 := by
  rw [number, h]

theorem number_of_span {token : List Char} (h : Literal.ofChars? token = none) :
    number token = ((Literal.ofChars? (numberSpan token)).map Literal.toFloat32).getD 0.0 := by
  rw [number, h]
  cases Literal.ofChars? (numberSpan token) with
  | none => rfl
  | some l => rfl

theorem number_eq_zero {token : List Char} (h : Literal.ofChars? token = none)
    (hspan : ¬(Literal.ofChars? (numberSpan token)).isSome = true) : number token = 0.0 := by
  rw [Bool.not_eq_true, Option.isSome_eq_false_iff, Option.isNone_iff_eq_none] at hspan
  rw [number_of_span h, hspan]
  rfl

/-- A number without a word and without an exponent. -/
def IsPlainNumber (text : List Char) : Prop :=
  IsPlainText text ∧ (Literal.ofChars? text).isSome = true

instance : DecidablePred IsPlainNumber := fun text =>
  inferInstanceAs (Decidable (IsPlainText text ∧ (Literal.ofChars? text).isSome = true))

/-- What a token stands for: its own value if it is a number. Otherwise the value of the longest
plain number in front, or zero if there is none. But it is zero, too, if the sign, digits and points
in front have a second point among them. -/
structure StandsFor (token : List Char) (value : Float32) : Prop where
  own : ∀ l, Literal.ofChars? token = some l → value = l.toFloat32
  front : Literal.ofChars? token = none →
    (∀ run, run <+: token → IsPlainText run → run.count '.' ≤ 1) →
    ∀ front l, IsLongestFront IsPlainNumber token front → Literal.ofChars? front = some l →
      value = l.toFloat32
  nothing : Literal.ofChars? token = none →
    (∀ front, front <+: token → ¬IsPlainNumber front) → value = 0.0
  points : Literal.ofChars? token = none →
    (∃ run, run <+: token ∧ IsPlainText run ∧ 2 ≤ run.count '.') → value = 0.0

/-- The longest plain number in front is all that was scanned, if this has one point at most. -/
theorem eq_numberSpan_of_longest {token front : List Char}
    (hcount : (numberSpan token).count '.' ≤ 1)
    (h : IsLongestFront IsPlainNumber token front) : front = numberSpan token := by
  have hinside := prefix_numberSpan h.isPrefix h.holds.1
  obtain ⟨-, c, hc, hdigit⟩ := h.holds.1.isSome_ofChars?_iff.mp h.holds.2
  have hspan : IsPlainNumber (numberSpan token) :=
    ⟨isPlainText_numberSpan token, (isPlainText_numberSpan token).isSome_ofChars?_iff.mpr
      ⟨hcount, c, hinside.subset hc, hdigit⟩⟩
  exact hinside.eq_of_length_le (h.longest _ (numberSpan_isPrefix token) hspan)

theorem standsFor_number (token : List Char) : StandsFor token (number token) where
  own _ h := number_of_literal h
  front hnone hcount front l hlongest hl := by
    have hspan := hcount _ (numberSpan_isPrefix token) (isPlainText_numberSpan token)
    rw [number_of_span hnone, ← eq_numberSpan_of_longest hspan hlongest, hl]
    rfl
  nothing hnone hfronts := number_eq_zero hnone fun hsome =>
    hfronts _ (numberSpan_isPrefix token) ⟨isPlainText_numberSpan token, hsome⟩
  points hnone hpoints := by
    obtain ⟨run, hrun, hplain, hcount⟩ := hpoints
    have hmore : 2 ≤ (numberSpan token).count '.' :=
      hcount.trans ((prefix_numberSpan hrun hplain).sublist.count_le '.')
    apply number_eq_zero hnone
    rw [(isPlainText_numberSpan token).isSome_ofChars?_iff]
    omega

example : number "1e5z".toList = 1.0 ∧ number "infinit".toList = 0.0 := by decide +kernel

/-! ### Tokens of a line -/

theorem getElem?_evens (values : List Float32) (k : Nat) : (evens values)[k]? = values[2 * k]? := by
  induction values using evens.induct generalizing k with
  | case1 => rfl
  | case2 x =>
    cases k with
    | zero => rfl
    | succ k =>
      rw [evens, List.getElem?_eq_none (by simp), List.getElem?_eq_none (by simp; omega)]
  | case3 x y rest ih =>
    cases k with
    | zero => rfl
    | succ k => exact ih k

theorem getElem?_odds (values : List Float32) (k : Nat) :
    (odds values)[k]? = values[2 * k + 1]? := by
  induction values using odds.induct generalizing k with
  | case1 => rfl
  | case2 x => rw [odds, List.getElem?_nil, List.getElem?_eq_none (by simp)]
  | case3 x y rest ih =>
    cases k with
    | zero => rfl
    | succ k => exact ih k

theorem get_firstValues (n : Nat) (values : List Float32) (i : Fin n) :
    (firstValues n values).get i = (values[i.val]?).getD 0.0 := by
  rw [← List.getD_eq_getElem?_getD]
  exact Vector.getElem_ofFn _

/-- The number at a place of a line, zero where the line has no token any more. -/
def numberAt (line : String) (k : Nat) : Float32 :=
  (((Text.wordsOf line.toList)[k]?).map number).getD 0.0

/-- Every token of a line that is used is used for what it stands for: voltages and currents in
turn, currents without the noise around zero, and the values of the payload board in order. -/
theorem lines_hold_numbers (line : String) :
    (∀ token, StandsFor token (number token)) ∧
    (∀ i, (powerLine line).1.get i = numberAt line (2 * i.val)) ∧
    (∀ i, (powerLine line).2.get i = denoise (numberAt line (2 * i.val + 1))) ∧
    ∀ sensor, payloadLine line = some sensor → ∀ i, sensor.get i = numberAt line i.val := by
  refine ⟨standsFor_number, fun i => ?_, fun i => ?_, fun sensor h i => ?_⟩
  · show (firstValues powerChannels _).get i = _
    rw [get_firstValues, getElem?_evens, List.getElem?_map]
    rfl
  · have hmap : (powerLine line).2.get i =
        denoise ((firstValues powerChannels
          (odds ((Text.wordsOf line.toList).map number))).get i) := Vector.getElem_map _ _
    rw [hmap, get_firstValues, getElem?_odds, List.getElem?_map]
    rfl
  · rw [payloadLine, Option.ite_none_right_eq_some] at h
    rw [← Option.some.inj h.2, get_firstValues, List.getElem?_map]
    rfl

theorem lines_hold_numbers_unit_behind :
    let line := "OK BME280 -4.2V 1e5z"
    let place : Fin payloadSensors := ⟨2, by decide⟩
    ∃ sensor, payloadLine line = some sensor ∧ sensor.get place = numberAt line 2 ∧
      (Text.wordsOf line.toList)[2]? = some "-4.2V".toList ∧
      IsLongestFront IsPlainNumber "-4.2V".toList "-4.2".toList ∧
      number "-4.2V".toList = Literal.toFloat32 ⟨true, .finite 42 (-1)⟩ ∧
      sensor.get place = -4.2 := by
  intro line place
  obtain ⟨sensor, hsensor⟩ := Option.isSome_iff_exists.mp
    (by decide : (payloadLine line).isSome = true)
  obtain ⟨hstands, -, -, hpayload⟩ := lines_hold_numbers line
  have hword : (Text.wordsOf line.toList)[2]? = some "-4.2V".toList := by decide
  have hlongest : IsLongestFront IsPlainNumber "-4.2V".toList "-4.2".toList := by decide
  have hcount : ∀ run, run <+: "-4.2V".toList → IsPlainText run → run.count '.' ≤ 1 :=
    fun run hrun _ => (hrun.sublist.count_le '.').trans (by decide)
  have hnumber : number "-4.2V".toList = Literal.toFloat32 ⟨true, .finite 42 (-1)⟩ :=
    (hstands "-4.2V".toList).front (by decide) hcount "-4.2".toList _ hlongest (by decide)
  refine ⟨sensor, hsensor, hpayload sensor hsensor place, hword, hlongest, hnumber, ?_⟩
  rw [hpayload sensor hsensor place, numberAt]
  show (((Text.wordsOf line.toList)[2]?).map number).getD 0.0 = -4.2
  rw [hword, Option.map_some, hnumber]
  decide +kernel

/-- A token with a number in front and a second point behind it counts as zero. -/
theorem second_point_hides_number :
    let token := "1.5.".toList
    Text.wordsOf "1.5.".toList = [token] ∧ Literal.ofChars? token = none ∧
      IsLongestFront (fun text => (Literal.ofChars? text).isSome = true) token "1.5".toList ∧
      (Literal.ofChars? "1.5".toList).map Literal.toFloat32 = some 1.5 ∧
      (powerLine "1.5.").1.get ⟨0, by decide⟩ = 0.0 ∧ (0.0 : Float32) ≠ 1.5 := by
  intro token
  exact ⟨by decide, by decide, by decide, by decide +kernel, by decide +kernel,
    by decide +kernel⟩

end Sensor

end Downlink
