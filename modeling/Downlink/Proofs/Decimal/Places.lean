import Mathlib
import Downlink.Proofs.Decimal.Rounding
import Downlink.Proofs.Decimal.Written

/-!
# Values with four places

A text with a fixed number of places is read as the units of its last place. With four places, the
float that is read rounds to the same units again.
-/

namespace Downlink.Decimal

open Float.Model (UnpackedFloat)
open Float.Model.UnpackedFloat (Sign)

/-! ### Reading a fixed number of places -/

/-- The digits of a number, with zeros in front. -/
def padded (places n : Nat) : List Char :=
  List.replicate (places - (Nat.toDigits 10 n).length) '0' ++ Nat.toDigits 10 n

theorem allDigits_padded (places n : Nat) : AllDigits (padded places n) := by
  intro c hc
  rcases List.mem_append.mp hc with hc | hc
  · rw [List.eq_of_mem_replicate hc]
    rfl
  · exact allDigits_toDigits n c hc

theorem length_padded {places n : Nat} (hplaces : 0 < places) (h : n < 10 ^ places) :
    (padded places n).length = places := by
  have hlength := (Nat.length_toDigits_le_iff (by decide : 1 < 10) hplaces).mpr h
  rw [padded, List.length_append, List.length_replicate, Nat.sub_add_cancel hlength]

theorem digitsValue_padded {places n : Nat} (hplaces : 0 < places) (h : n < 10 ^ places)
    (acc : Nat) : digitsValue acc (padded places n) = acc * 10 ^ places + n := by
  have hzero : digitsValue 0 (padded places n) = n := by
    rw [digitsValue_eq, padded, Nat.ofDigitChars_append, Nat.ofDigitChars_replicate_zero,
      Nat.mul_zero, Nat.ofDigitChars_ten_toDigits]
  rw [digitsValue_eq, Nat.ofDigitChars_eq_ofDigitChars_zero, ← digitsValue_eq, hzero,
    length_padded hplaces h, Nat.mul_comm]

theorem toList_pointed {places : Nat} (hplaces : places ≠ 0) (units : Nat) :
    (pointed places units).toList =
      Nat.toDigits 10 (units / 10 ^ places) ++ '.' :: padded places (units % 10 ^ places) := by
  have hlength : (toString (units % 10 ^ places)).length =
      (Nat.toDigits 10 (units % 10 ^ places)).length := by
    rw [← String.length_toList, toList_toString]
  rw [pointed, if_neg hplaces]
  simp only [String.toList_append, String.toList_ofList, toList_toString, List.append_assoc]
  show _ ++ '.' :: (List.replicate (places - (toString (units % 10 ^ places)).length) '0' ++ _) = _
  rw [hlength]
  rfl

theorem digits?_toList_pointed {places : Nat} (hplaces : 0 < places) (units : Nat) :
    digits? (pointed places units).toList = some (.finite units (-places)) := by
  have hlt : units % 10 ^ places < 10 ^ places := Nat.mod_lt _ (by positivity)
  rw [toList_pointed (Nat.ne_of_gt hplaces), digits?_pointed Nat.toDigits_ne_nil
    (allDigits_toDigits _) (allDigits_padded _ _), digitsValue_padded hplaces hlt,
    length_padded hplaces hlt, digitsValue_eq, Nat.ofDigitChars_ten_toDigits,
    Nat.div_add_mod']

theorem toLower_of_isDigit {c : Char} (h : c.isDigit = true) : c.toLower = c := by
  rw [Char.toLower, dif_neg]
  rintro ⟨hupper, -⟩
  have hletter : 65 ≤ c.toNat := UInt32.le_iff_toNat_le.mp hupper
  have hdigit := isDigit_bounds h
  omega

theorem magnitude?_of_isDigit {c : Char} (hc : c.isDigit = true) (rest : List Char) :
    magnitude? (c :: rest) = digits? (c :: rest) := by
  have hword : ∀ {d : Char} {letters : List Char}, d.isDigit = false →
      ((c :: rest).map Char.toLower = d :: letters) = False := by
    intro d letters hd
    rw [List.map_cons, toLower_of_isDigit hc, List.cons.injEq, eq_iff_iff]
    exact ⟨fun h => ne_of_isDigit hc hd h.1, False.elim⟩
  have hinf : "inf".toList = ['i', 'n', 'f'] := by decide
  have hinfinity : "infinity".toList = ['i', 'n', 'f', 'i', 'n', 'i', 't', 'y'] := by decide
  have hnan : "nan".toList = ['n', 'a', 'n'] := by decide
  rw [magnitude?, hinf, hinfinity, hnan]
  simp only [hword (by decide : 'i'.isDigit = false), hword (by decide : 'n'.isDigit = false)]
  rfl

/-- A finite value with a fixed number of places is read as its units of the last place. -/
theorem ofChars?_fixed {places : Nat} (hplaces : 0 < places) (negative : Bool)
    (significand : Nat) (exponent : Int) :
    Literal.ofChars? ((Value.finite negative significand exponent).fixed places).toList =
      some ⟨negative, .finite (scaled places significand exponent) (-places)⟩ := by
  have hpointed := isPointed_pointed places (scaled places significand exponent)
  have hmagnitude : magnitude? (pointed places (scaled places significand exponent)).toList =
      some (.finite (scaled places significand exponent) (-places)) := by
    obtain ⟨c, rest, htext, hc⟩ := hpointed.exists_cons
    rw [htext, magnitude?_of_isDigit hc, ← htext, digits?_toList_pointed hplaces]
  rw [toList_fixed_finite, Literal.ofChars?, hpointed.splitSign_eq]
  dsimp only
  rw [hmagnitude]
  rfl

/-! ### Units of the fourth place -/

/-- A float with its sign and its number of units of the fourth place. -/
def ofUnits (negative : Bool) (units : Nat) : Float :=
  if negative then -(if units = 0 then 0.0 else Float.ofScientific units true 4)
  else if units = 0 then 0.0 else Float.ofScientific units true 4

theorem toFloat_units (negative : Bool) {units : Nat} (h : units < 2 ^ 53) :
    (Literal.toFloat ⟨negative, .finite units (-4)⟩) = ofUnits negative units := by
  have hlog : units.log2 < 53 := by
    by_cases hzero : units = 0
    · rw [hzero]
      decide
    · exact (Nat.log2_lt hzero).mpr h
  have hlow : ¬ leading units (-4) < -decimalRange := by
    unfold leading decimalRange
    omega
  have hhigh : ¬ decimalRange < leading units (-4) := by
    unfold leading decimalRange
    omega
  have hmagnitude : (Magnitude.finite units (-4)).toFloat =
      if units = 0 then 0.0 else Float.ofScientific units true 4 := by
    rw [Magnitude.toFloat, if_neg hhigh]
    simp only [hlow, or_false]
    rfl
  rw [Literal.toFloat, ofUnits, hmagnitude]

/-! ### Rounded quotients -/

theorem roundDiv_le {num den bound : Nat} (hden : 0 < den) (h : num ≤ bound * den) :
    roundDiv num den ≤ bound := by
  have hsum : num / den * den + num % den = num := Nat.div_add_mod' num den
  have hquotient : num / den ≤ bound := by
    refine Nat.le_of_mul_le_mul_right ?_ hden
    omega
  have hrest : 0 < num % den → num / den < bound := by
    intro hpos
    refine Nat.lt_of_mul_lt_mul_right (a := den) ?_
    omega
  unfold roundDiv
  dsimp only
  split
  · exact hquotient
  · have hlt := hrest (by omega)
    split
    · omega
    · omega

/-- A quotient that is off by less than a half of a whole number is rounded to it. -/
theorem roundDiv_eq {num den n slack : Nat} (hlow : n * den ≤ num + slack)
    (hhigh : num ≤ n * den + slack) (hslack : 2 * slack < den) : roundDiv num den = n := by
  have hsum : num / den * den + num % den = num := Nat.div_add_mod' num den
  have hrest : num % den < den := Nat.mod_lt num (by omega)
  have hcases : (num / den = n ∧ 2 * (num % den) < den) ∨
      (num / den + 1 = n ∧ den < 2 * (num % den)) := by
    rcases Nat.lt_trichotomy (num / den) n with hlt | heq | hgt
    · have hnext : (num / den + 1) * den ≤ n * den := Nat.mul_le_mul_right den hlt
      rw [Nat.add_mul, Nat.one_mul] at hnext
      refine Or.inr ⟨Nat.le_antisymm hlt ?_, by omega⟩
      by_contra hmore
      have hover : (num / den + 2) * den ≤ n * den := Nat.mul_le_mul_right den (by omega)
      rw [Nat.add_mul] at hover
      omega
    · rw [heq] at hsum
      exact Or.inl ⟨heq, by omega⟩
    · have hnext : (n + 1) * den ≤ num / den * den := Nat.mul_le_mul_right den hgt
      rw [Nat.add_mul, Nat.one_mul] at hnext
      omega
  unfold roundDiv
  dsimp only
  rcases hcases with ⟨heq, hsmall⟩ | ⟨heq, hlarge⟩
  · rw [if_pos hsmall, heq]
  · rw [if_neg (by omega), if_pos hlarge, heq]

theorem scaled_neg (places significand shift : Nat) :
    scaled places significand (-shift) = roundDiv (significand * 10 ^ places) (2 ^ shift) := by
  rw [scaled, Int.toNat_neg_natCast, Int.neg_neg, Int.toNat_natCast]
  show roundDiv (significand * 10 ^ places * 1) _ = _
  rw [Nat.mul_one]
  rfl

theorem scaled_zero (places shift : Nat) : scaled places 0 (-shift) = 0 := by
  rw [scaled_neg, Nat.zero_mul, ← Nat.le_zero]
  exact roundDiv_le (Nat.two_pow_pos shift) (Nat.zero_le _)

/-! ### Reading units -/

/-- The sign of a number, from whether it is negative. -/
def signOfBool (negative : Bool) : Sign := if negative then .negative else .positive

theorem signOfBool_beq (negative : Bool) : (signOfBool negative == .negative) = negative := by
  cases negative <;> rfl

theorem unpack_zero : (0.0 : Float).toModel.unpack = .zero .positive := by rfl

theorem unpack_ofUnits_zero (negative : Bool) :
    (ofUnits negative 0).toModel.unpack = .zero (signOfBool negative) := by
  cases negative with
  | true =>
    show (-(0.0 : Float)).toModel.unpack = _
    rw [unpack_neg, unpack_zero]
    rfl
  | false => exact unpack_zero

/-- What is read of units of the fourth place is off by one in the last place of the float at
most. -/
theorem exists_unpack_ofUnits (negative : Bool) {units : Nat} (hpos : 0 < units)
    (hlt : units < 2 ^ 53) :
    ∃ (mantissa shift : Nat) (h : 0 < mantissa),
      (ofUnits negative units).toModel.unpack =
        .finite (signOfBool negative) mantissa (-shift) h ∧
      2 ^ 52 ≤ mantissa ∧ mantissa < 2 ^ 53 ∧
      mantissa * 10000 ≤ units * 2 ^ shift + 10000 ∧
      units * 2 ^ shift < (mantissa + 1) * 10000 := by
  obtain ⟨mantissa, shift, h, hunpack, hfull, hmlt, -, hbelow, habove⟩ :=
    exists_ofScientific hpos hlt
  refine ⟨mantissa, shift, h, ?_, hfull, hmlt, hbelow, habove⟩
  rw [ofUnits, if_neg (Nat.ne_of_gt hpos)]
  cases negative with
  | true =>
    rw [if_pos rfl, unpack_neg, hunpack]
    rfl
  | false =>
    rw [if_neg Bool.false_ne_true, hunpack]
    rfl

/-- The float that is read of units of the fourth place rounds to the same units. -/
theorem exists_ofFloat_ofUnits (negative : Bool) {units : Nat} (h : units ≤ 2 ^ 21) :
    ∃ (significand : Nat) (exponent : Int),
      ofFloat (ofUnits negative units) = .finite negative significand exponent ∧
      scaled 4 significand exponent = units := by
  rw [(unpack_spec _).2]
  by_cases hzero : units = 0
  · refine ⟨0, -1074, ?_, ?_⟩
    · rw [hzero, unpack_ofUnits_zero, valueOf, signOfBool_beq]
    · rw [hzero]
      exact scaled_zero 4 1074
  · obtain ⟨mantissa, shift, hpos, hunpack, hfull, -, hbelow, habove⟩ :=
      exists_unpack_ofUnits negative (Nat.pos_of_ne_zero hzero) (by omega)
    refine ⟨mantissa, -shift, ?_, ?_⟩
    · rw [hunpack, valueOf, signOfBool_beq]
    · -- So few units leave many places behind the point.
      have hshift : 15 ≤ shift := by
        by_contra hshort
        have hpower : 2 ^ shift ≤ 2 ^ 14 := Nat.pow_le_pow_right (by decide) (by omega)
        have hproduct : units * 2 ^ shift ≤ 2 ^ 21 * 2 ^ 14 := Nat.mul_le_mul h hpower
        omega
      have hpower : 2 ^ 15 ≤ 2 ^ shift := Nat.pow_le_pow_right (by decide) hshift
      have hlow : units * 2 ^ shift ≤ mantissa * 10 ^ 4 + 10000 := by omega
      rw [scaled_neg]
      exact roundDiv_eq hlow hbelow (by omega)

end Downlink.Decimal
