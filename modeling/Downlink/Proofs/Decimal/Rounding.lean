import Mathlib
import Downlink.Proofs.Decimal.Unpacked

/-!
# Rounded quotients

A result with more digits than a float has is cut and then rounded, so it is off by at most one in
its last place. This is what a whole number divided by a power of ten comes to.
-/

namespace Downlink.Decimal

open Float.Model (UnpackedFloat totalExponent)
open Float.Model.UnpackedFloat

variable {sign : Sign} {accuracy : Accuracy}

/-! ### Cutting and rounding -/

theorem mantissa_shiftRight (m : ExtendedMantissa) (n : Nat) :
    (m >>> n).mantissa = m.mantissa / 2 ^ n := by
  induction n generalizing m with
  | zero =>
    show m.mantissa = _
    rw [pow_zero, Nat.div_one]
  | succ n ih =>
    show (m >>> n).mantissa / 2 = _
    rw [ih, Nat.div_div_eq_div_mul, ← pow_succ]

theorem mantissa_ofMantissaAndAccuracy (m : Nat) (accuracy : Accuracy) :
    (ExtendedMantissa.ofMantissaAndAccuracy m accuracy).mantissa = m := by
  cases accuracy with
  | exact => rfl
  | inexact order => cases order <;> rfl

theorem roundedMantissa_bounds (m : ExtendedMantissa) :
    m.mantissa ≤ m.roundedMantissa ∧ m.roundedMantissa ≤ m.mantissa + 1 := by
  unfold ExtendedMantissa.roundedMantissa Accuracy.roundToNearestEven
  split <;> omega

theorem targetExponent_eq (m : Nat) (e : Int) :
    Float.Model.Format.binary64.targetExponent (totalExponent m e) =
      max (m.log2 + e - 52) (-1074) := by
  show max ((m.log2 : Int) + 1 + e - 53) (-1074) = _
  congr 1
  omega

theorem shiftToTargetExponent_eq {m : Nat} {e : Int} (hlog : 52 ≤ m.log2) (he : -1074 ≤ e) :
    shiftToTargetExponent .binary64 m e accuracy =
      (ExtendedMantissa.ofMantissaAndAccuracy m accuracy >>> (m.log2 - 52),
        e + (m.log2 - 52 : Nat)) := by
  have hshift : (max ((m.log2 : Int) + e - 52) (-1074) - e).toNat = m.log2 - 52 := by omega
  rw [shiftToTargetExponent, targetExponent_eq, shiftToExponent, hshift]

/-- Rounding keeps what fits. -/
theorem shiftToTargetExponent_exact {m : Nat} {e : Int} (hlow : 2 ^ 52 ≤ m) (hlt : m < 2 ^ 53)
    (he : -1074 ≤ e) :
    shiftToTargetExponent .binary64 m e .exact = (⟨m, false, false⟩, e) := by
  have hlog := log2_eq hlow hlt
  rw [shiftToTargetExponent_eq (by omega) he, hlog]
  show (_, e + ((0 : Nat) : Int)) = _
  rw [Int.natCast_zero, Int.add_zero]
  rfl

theorem roundWithAccuracy_eq {m : Nat} {e first last : Int} {cut rest : ExtendedMantissa}
    (hcut : shiftToTargetExponent .binary64 m e accuracy = (cut, first))
    (hrest : shiftToTargetExponent .binary64 cut.roundedMantissa first .exact = (rest, last))
    (hpos : 0 < rest.mantissa) :
    roundWithAccuracy .binary64 sign m e accuracy = .finite sign rest.mantissa last hpos := by
  unfold roundWithAccuracy
  simp only [hcut, hrest]
  rw [dif_neg (Nat.ne_of_gt hpos)]

theorem roundWithAccuracy_exact {m : Nat} {e : Int} (hlow : 2 ^ 52 ≤ m) (hlt : m < 2 ^ 53)
    (he : -1074 ≤ e) (hpos : 0 < m) :
    roundWithAccuracy .binary64 sign m e .exact = .finite sign m e hpos :=
  roundWithAccuracy_eq (shiftToTargetExponent_exact hlow hlt he)
    (shiftToTargetExponent_exact hlow hlt he) hpos

theorem div_two_pow_bounds {m : Nat} (hlog : 52 ≤ m.log2) :
    2 ^ 52 ≤ m / 2 ^ (m.log2 - 52) ∧ m / 2 ^ (m.log2 - 52) < 2 ^ 53 := by
  have hne : m ≠ 0 := by
    rintro rfl
    exact absurd hlog (by decide)
  have hpos : 0 < 2 ^ (m.log2 - 52) := Nat.two_pow_pos _
  constructor
  · rw [Nat.le_div_iff_mul_le hpos, ← pow_add, Nat.add_sub_cancel' hlog]
    exact Nat.log2_self_le hne
  · have hpower : 53 + (m.log2 - 52) = m.log2 + 1 := by omega
    rw [Nat.div_lt_iff_lt_mul hpos, ← pow_add, hpower]
    exact Nat.lt_log2_self

/-- A mantissa with too many digits is rounded to within one in its last place. -/
theorem exists_roundWithAccuracy {m : Nat} {e : Int} (hlog : 52 ≤ m.log2) (he : -1074 ≤ e) :
    ∃ (mantissa shift : Nat) (hpos : 0 < mantissa),
      roundWithAccuracy .binary64 sign m e accuracy = .finite sign mantissa (e + shift) hpos ∧
      2 ^ 52 ≤ mantissa ∧ mantissa < 2 ^ 53 ∧ shift + 51 ≤ m.log2 ∧
      mantissa * 2 ^ shift ≤ m + 2 ^ shift ∧ m < (mantissa + 1) * 2 ^ shift := by
  have hcut := @shiftToTargetExponent_eq accuracy m e hlog he
  obtain ⟨hlow, hlt⟩ := div_two_pow_bounds hlog
  have hrounded := roundedMantissa_bounds
    (ExtendedMantissa.ofMantissaAndAccuracy m accuracy >>> (m.log2 - 52))
  rw [mantissa_shiftRight, mantissa_ofMantissaAndAccuracy] at hrounded
  obtain ⟨shift, hshift⟩ : ∃ shift, m.log2 = 52 + shift := Nat.exists_eq_add_of_le hlog
  rw [hshift, Nat.add_sub_cancel_left] at hcut hrounded hlow hlt
  generalize ExtendedMantissa.ofMantissaAndAccuracy m accuracy >>> shift = cut at hcut hrounded
  have hbelow := Nat.div_mul_le_self m (2 ^ shift)
  have habove := Nat.lt_div_mul_add (a := m) (Nat.two_pow_pos shift)
  by_cases hfits : cut.roundedMantissa < 2 ^ 53
  · have hfull : 2 ^ 52 ≤ cut.roundedMantissa := hlow.trans hrounded.1
    refine ⟨cut.roundedMantissa, shift, by omega, ?_, hfull, hfits, by omega, ?_, ?_⟩
    · exact roundWithAccuracy_eq hcut (shiftToTargetExponent_exact hfull hfits (by omega)) _
    · nlinarith [hrounded.2, Nat.two_pow_pos shift]
    · nlinarith [hrounded.1, Nat.two_pow_pos shift]
  · -- Rounding up has carried through all digits, so one digit more is cut off.
    have hcarry : cut.roundedMantissa = 2 ^ 53 := by omega
    have hrest := @shiftToTargetExponent_eq .exact (2 ^ 53) (e + (shift : Int))
      (by rw [Nat.log2_two_pow]; decide) (by omega)
    rw [Nat.log2_two_pow, ← hcarry] at hrest
    have hmantissa : (ExtendedMantissa.ofMantissaAndAccuracy cut.roundedMantissa .exact >>>
        (53 - 52)).mantissa = 2 ^ 52 := by
      rw [mantissa_shiftRight, mantissa_ofMantissaAndAccuracy, hcarry]
      decide
    have hround := @roundWithAccuracy_eq sign _ _ _ _ _ _ _ hcut hrest (by rw [hmantissa]; decide)
    have hpower : 2 ^ (shift + 1) = 2 ^ shift * 2 := pow_succ 2 shift
    refine ⟨2 ^ 52, shift + 1, by decide, ?_, by decide, by decide, by omega, ?_, ?_⟩
    · rw [hround]
      simp only [hmantissa]
      congr 1
      omega
    · rw [hpower]
      nlinarith [hrounded.1, Nat.two_pow_pos shift]
    · rw [hpower]
      nlinarith [hrounded.1, Nat.two_pow_pos shift]

/-! ### Whole numbers -/

theorem full_bounds {n : Nat} (hpos : 0 < n) (hlt : n < 2 ^ 53) :
    n.log2 ≤ 52 ∧ 2 ^ 52 ≤ n * 2 ^ (52 - n.log2) ∧ n * 2 ^ (52 - n.log2) < 2 ^ 53 := by
  have hlog : n.log2 ≤ 52 := Nat.lt_succ_iff.mp ((Nat.log2_lt (Nat.ne_of_gt hpos)).mpr hlt)
  refine ⟨hlog, ?_, ?_⟩
  · calc 2 ^ 52 = 2 ^ n.log2 * 2 ^ (52 - n.log2) := by rw [← pow_add, Nat.add_sub_cancel' hlog]
      _ ≤ n * 2 ^ (52 - n.log2) := Nat.mul_le_mul_right _ (Nat.log2_self_le (Nat.ne_of_gt hpos))
  · calc n * 2 ^ (52 - n.log2) < 2 ^ (n.log2 + 1) * 2 ^ (52 - n.log2) :=
        Nat.mul_lt_mul_of_pos_right Nat.lt_log2_self (Nat.two_pow_pos _)
      _ = 2 ^ 53 := by rw [← pow_add, Nat.add_right_comm, Nat.add_sub_cancel' hlog]

/-- A whole number below `2 ^ 53` is a float. -/
theorem unpack_toFloat {n : Nat} (hlt : n < 2 ^ 53) (h : 0 < n * 2 ^ (52 - n.log2)) :
    n.toUInt64.toFloat.toModel.unpack =
      .finite .positive (n * 2 ^ (52 - n.log2)) (n.log2 - 52) h := by
  have hpos : 0 < n := Nat.pos_of_mul_pos_right h
  obtain ⟨hlog, hlow, hhigh⟩ := full_bounds hpos hlt
  have hbits : n.toUInt64.toNat = n := by
    rw [Nat.toUInt64, UInt64.toNat_ofNat']
    exact Nat.mod_eq_of_lt (by omega)
  have hround : UnpackedFloat.round .binary64 .positive n 0 =
      .finite .positive (n * 2 ^ (52 - n.log2)) (n.log2 - 52) h := by
    have hshift : ((0 : Int) - max ((n.log2 : Int) + 0 - 52) (-1074)).toNat = 52 - n.log2 := by
      omega
    have hexponent : (0 : Int) - ((52 - n.log2 : Nat) : Int) = n.log2 - 52 := by omega
    unfold UnpackedFloat.round decreaseExponent
    dsimp only
    rw [targetExponent_eq, hshift, Nat.shiftLeft_eq, hexponent]
    exact roundWithAccuracy_exact hlow hhigh (by omega) h
  have hcompare : compare (n : Int) 0 = .gt := Int.compare_eq_gt.mpr (by omega)
  show (Float.Model.pack (ofNat .binary64 n.toUInt64.toNat)).unpack = _
  rw [hbits, ofNat, ofInt, UnpackedFloat.normalize, hcompare]
  dsimp only
  rw [Int.toNat_natCast, hround]
  exact unpack_pack ⟨hhigh, by omega, by omega, Or.inl hlow⟩

/-! ### Quotients -/

theorem divCore_full {m n : Nat} {e f : Int} (hm : m.log2 = 52) (hn : n.log2 = 52)
    (hexponent : -1074 ≤ e - f - 53) :
    divCore .binary64 m e n f =
      (m * 2 ^ 53 / n, e - f - 53, accuracyOfFraction (m * 2 ^ 53 % n) n) := by
  have htarget : min (e - f) (Float.Model.Format.binary64.targetExponent
      (totalExponent m e - totalExponent n f)) = e - f - 53 := by
    show min (e - f) (max ((m.log2 : Int) + 1 + e - (n.log2 + 1 + f) - 53) (-1074)) = _
    omega
  have hshift : (e - f - (e - f - 53)).toNat = 53 := by omega
  unfold divCore
  dsimp only
  rw [htarget, hshift, Nat.shiftLeft_eq]

/-- A quotient of full mantissas is right to within one in its last place. -/
theorem exists_div {m n : Nat} {e f : Int} (hm : 0 < m) (hn : 0 < n)
    (hmfull : 2 ^ 52 ≤ m ∧ m < 2 ^ 53) (hnfull : 2 ^ 52 ≤ n ∧ n < 2 ^ 53)
    (hexponent : -1074 ≤ e - f - 53) :
    ∃ (mantissa shift : Nat) (hpos : 0 < mantissa),
      div .binary64 (.finite .positive m e hm) (.finite .positive n f hn) =
        .finite .positive mantissa (e - f - 53 + shift) hpos ∧
      2 ^ 52 ≤ mantissa ∧ mantissa < 2 ^ 53 ∧ shift ≤ 2 ∧
      mantissa * 2 ^ shift * n ≤ m * 2 ^ 53 + 2 ^ shift * n ∧
      m * 2 ^ 53 < (mantissa + 1) * 2 ^ shift * n := by
  have hbelow := Nat.div_mul_le_self (m * 2 ^ 53) n
  have habove := Nat.lt_div_mul_add (a := m * 2 ^ 53) hn
  have hlow : 2 ^ 52 ≤ m * 2 ^ 53 / n := by
    rw [Nat.le_div_iff_mul_le hn]
    nlinarith [hmfull.1, hnfull.2]
  have hhigh : m * 2 ^ 53 / n < 2 ^ 54 := by
    rw [Nat.div_lt_iff_lt_mul hn]
    nlinarith [hmfull.2, hnfull.1]
  have hne : m * 2 ^ 53 / n ≠ 0 := by omega
  have hlog : 52 ≤ (m * 2 ^ 53 / n).log2 := (Nat.le_log2 hne).mpr hlow
  have hlog' : (m * 2 ^ 53 / n).log2 < 54 := (Nat.log2_lt hne).mpr hhigh
  obtain ⟨mantissa, shift, hpos, hround, hfull, hlt, hshift, hrbelow, hrabove⟩ :=
    @exists_roundWithAccuracy .positive (accuracyOfFraction (m * 2 ^ 53 % n) n) _ _ hlog hexponent
  refine ⟨mantissa, shift, hpos, ?_, hfull, hlt, by omega, ?_, ?_⟩
  · unfold UnpackedFloat.div
    dsimp only
    rw [divCore_full (log2_eq hmfull.1 hmfull.2) (log2_eq hnfull.1 hnfull.2) hexponent]
    exact hround
  · calc mantissa * 2 ^ shift * n ≤ (m * 2 ^ 53 / n + 2 ^ shift) * n :=
        Nat.mul_le_mul_right n hrbelow
      _ = m * 2 ^ 53 / n * n + 2 ^ shift * n := Nat.add_mul _ _ _
      _ ≤ m * 2 ^ 53 + 2 ^ shift * n := Nat.add_le_add_right hbelow _
  · calc m * 2 ^ 53 < m * 2 ^ 53 / n * n + n := habove
      _ = (m * 2 ^ 53 / n + 1) * n := (Nat.succ_mul _ _).symm
      _ ≤ (mantissa + 1) * 2 ^ shift * n := Nat.mul_le_mul_right n hrabove

theorem unpack_tenThousand :
    (Float.ofBits 0x40C3880000000000).toModel.unpack =
      .finite .positive (10000 * 2 ^ 39) (-39) (by decide) := by
  rfl

/-- A number of units of the fourth place is read to within one in the last place of the float. -/
theorem exists_ofScientific {units : Nat} (hpos : 0 < units) (hlt : units < 2 ^ 53) :
    ∃ (mantissa places : Nat) (h : 0 < mantissa),
      (Float.ofScientific units true 4).toModel.unpack =
        .finite .positive mantissa (-places) h ∧
      2 ^ 52 ≤ mantissa ∧ mantissa < 2 ^ 53 ∧ places ≤ 66 ∧
      mantissa * 10000 ≤ units * 2 ^ places + 10000 ∧
      units * 2 ^ places < (mantissa + 1) * 10000 := by
  obtain ⟨hlog, hlow, hhigh⟩ := full_bounds hpos hlt
  have hwhole := unpack_toFloat hlt (by omega)
  obtain ⟨mantissa, shift, h, hdiv, hfull, hmlt, hshift, hbelow, habove⟩ :=
    exists_div (n := 10000 * 2 ^ 39) (e := units.log2 - 52) (f := -39) (by omega) (by decide)
      ⟨hlow, hhigh⟩ (by decide) (by omega)
  obtain ⟨places, hplaces⟩ : ∃ places, 66 = units.log2 + shift + places :=
    Nat.exists_eq_add_of_le (by omega)
  have hexponent : (units.log2 : Int) - 52 - -39 - 53 + shift = -places := by omega
  have hpower : 2 ^ (52 - units.log2) * 2 ^ 53 = 2 ^ places * (2 ^ shift * 2 ^ 39) := by
    rw [← pow_add, ← pow_add, ← pow_add]
    congr 1
    omega
  have hcancel : 0 < 2 ^ shift * 2 ^ 39 := by positivity
  rw [Nat.mul_assoc units, hpower] at hbelow habove
  refine ⟨mantissa, places, h, ?_, hfull, hmlt, by omega, ?_, ?_⟩
  · have hofScientific : Float.ofScientific units true 4 =
        units.toUInt64.toFloat / Float.ofBits 0x40C3880000000000 := by
      rw [Float.ofScientific, dif_pos ⟨hlt, by decide⟩]
      rfl
    rw [hofScientific]
    show (Float.Model.pack (div .binary64 units.toUInt64.toFloat.toModel.unpack
      (Float.ofBits 0x40C3880000000000).toModel.unpack)).unpack = _
    rw [hwhole, unpack_tenThousand, hdiv]
    simp only [hexponent]
    exact unpack_pack ⟨hmlt, by omega, by omega, Or.inl hfull⟩
  · refine Nat.le_of_mul_le_mul_right ?_ hcancel
    calc mantissa * 10000 * (2 ^ shift * 2 ^ 39) = mantissa * 2 ^ shift * (10000 * 2 ^ 39) := by
          ring
      _ ≤ units * (2 ^ places * (2 ^ shift * 2 ^ 39)) + 2 ^ shift * (10000 * 2 ^ 39) := hbelow
      _ = (units * 2 ^ places + 10000) * (2 ^ shift * 2 ^ 39) := by ring
  · refine Nat.lt_of_mul_lt_mul_right (a := 2 ^ shift * 2 ^ 39) ?_
    calc units * 2 ^ places * (2 ^ shift * 2 ^ 39) =
          units * (2 ^ places * (2 ^ shift * 2 ^ 39)) := by ring
      _ < (mantissa + 1) * 2 ^ shift * (10000 * 2 ^ 39) := habove
      _ = (mantissa + 1) * 10000 * (2 ^ shift * 2 ^ 39) := by ring

end Downlink.Decimal
