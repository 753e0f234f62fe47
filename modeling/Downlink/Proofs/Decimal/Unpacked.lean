import Mathlib
import Downlink.Decimal.Binary

/-!
# Floats as signs, mantissas and exponents

What is packed in canonical form, with a full mantissa or the least exponent, is unpacked again as it
was. Every float is unpacked to a canonical form, and that form stands for the value of its bits.
-/

namespace Downlink.Decimal

open Float.Model (UnpackedFloat)
open Float.Model.UnpackedFloat

/-- The mantissa fills its 53 bits, or the exponent is the least one. -/
structure IsCanonical (mantissa : Nat) (exponent : Int) : Prop where
  mantissa_lt : mantissa < 2 ^ 53
  least_le : -1074 ≤ exponent
  le_greatest : exponent ≤ 971
  full : 2 ^ 52 ≤ mantissa ∨ exponent = -1074

/-- A finite number is in its canonical form. -/
def Canonical : UnpackedFloat → Prop
  | .finite _ mantissa exponent _ => IsCanonical mantissa exponent
  | _ => True

theorem log2_eq {mantissa : Nat} (hlow : 2 ^ 52 ≤ mantissa) (hlt : mantissa < 2 ^ 53) :
    mantissa.log2 = 52 :=
  (Nat.log2_eq_iff (Nat.ne_of_gt (Nat.lt_of_lt_of_le (by decide) hlow))).mpr ⟨hlow, hlt⟩

/-! ### Bit fields -/

theorem sign_packComponents (sign : Sign) (exponent : BitVec 11) (mantissa : BitVec 52) :
    Sign.ofBitVec (unpackSign (packComponents .binary64 sign exponent mantissa)) = sign := by
  rw [unpackSign, packComponents, BitVec.extractLsb,
    BitVec.extractLsb'_append_eq_of_le (by decide), BitVec.extractLsb'_append_eq_of_le (by decide)]
  cases sign <;> rfl

theorem toNat_leading (fraction : BitVec 52) :
    (1#1 ++ fraction).toNat = 2 ^ 52 + fraction.toNat := by
  rw [BitVec.toNat_append, ← Nat.shiftLeft_add_eq_or_of_lt fraction.isLt]
  rfl

theorem ofNat_ne {w n k : Nat} (hn : n < 2 ^ w) (hk : k < 2 ^ w) (h : n ≠ k) :
    BitVec.ofNat w n ≠ BitVec.ofNat w k := by
  intro heq
  have htoNat := congrArg BitVec.toNat heq
  rw [BitVec.toNat_ofNat, BitVec.toNat_ofNat, Nat.mod_eq_of_lt hn, Nat.mod_eq_of_lt hk] at htoNat
  exact h htoNat

/-! ### Packing and unpacking -/

theorem unpack_full (sign : Sign) {biased fraction : Nat} (hzero : biased ≠ 0)
    (hbiased : biased < 2047) (hfraction : fraction < 2 ^ 52) :
    unpack .binary64 (packComponents .binary64 sign (BitVec.ofNat 11 biased)
      (BitVec.ofNat 52 fraction)) =
      .finite sign (2 ^ 52 + fraction) (biased - 1075) (by omega) := by
  have hexponent : (BitVec.ofNat 11 biased).toNat = biased := by
    rw [BitVec.toNat_ofNat, Nat.mod_eq_of_lt (by omega)]
  have hmantissa : (1#1 ++ BitVec.ofNat 52 fraction).toNat = 2 ^ 52 + fraction := by
    rw [toNat_leading, BitVec.toNat_ofNat, Nat.mod_eq_of_lt hfraction]
  have hspecial : BitVec.ofNat 11 biased ≠ -1#11 := by
    have hne : BitVec.ofNat 11 biased ≠ BitVec.ofNat 11 2047 :=
      ofNat_ne (by omega) (by decide) (by omega)
    exact hne
  have hleast : BitVec.ofNat 11 biased ≠ 0#11 := ofNat_ne (by omega) (by decide) hzero
  unfold unpack
  simp only [unpackMantissa_packComponents, unpackExponent_packComponents, sign_packComponents,
    hspecial, hleast, if_false, hexponent, hmantissa]
  rfl

theorem unpack_pack_full (sign : Sign) {mantissa : Nat} {exponent : Int} (hpos : 0 < mantissa)
    (h : IsCanonical mantissa exponent) (hfull : 2 ^ 52 ≤ mantissa) :
    (Float.Model.pack (.finite sign mantissa exponent hpos)).unpack =
      .finite sign mantissa exponent hpos := by
  obtain ⟨hlt, hleast, hgreatest, -⟩ := h
  obtain ⟨biased, rfl⟩ : ∃ biased : Nat, exponent = biased - 1075 :=
    ⟨(exponent + 1075).toNat, by omega⟩
  obtain ⟨fraction, rfl⟩ : ∃ fraction, mantissa = 2 ^ 52 + fraction := Nat.exists_eq_add_of_le hfull
  have hfield : ((biased : Int) - 1075 + ((2 ^ (11 - 1) - 1 : Nat) : Int) + (52 : Nat)).toNat =
      biased := by
    omega
  have hbits : (2 ^ 52 + fraction).log2 + 1 = Float.Model.Format.binary64.mantissaBits := by
    rw [log2_eq hfull hlt]
    rfl
  have hfraction : BitVec.ofNat 52 (2 ^ 52 + fraction) = BitVec.ofNat 52 fraction := by
    refine BitVec.eq_of_toNat_eq ?_
    rw [BitVec.toNat_ofNat, BitVec.toNat_ofNat, Nat.add_mod_left]
  have hpack : pack .binary64 (.finite sign (2 ^ 52 + fraction) (biased - 1075) hpos) =
      packComponents .binary64 sign (BitVec.ofNat 11 biased) (BitVec.ofNat 52 fraction) := by
    unfold pack
    dsimp only [Float.Model.Format.exponentBias]
    rw [hfield, if_neg (by omega), if_pos hbits, hfraction]
  show unpack .binary64 (pack .binary64 _) = _
  rw [hpack, unpack_full sign (by omega) (by omega) (by omega)]

theorem unpack_pack_least (sign : Sign) {mantissa : Nat} (hpos : 0 < mantissa)
    (hlt : mantissa < 2 ^ 52) :
    (Float.Model.pack (.finite sign mantissa (-1074) hpos)).unpack =
      .finite sign mantissa (-1074) hpos := by
  have hbits : mantissa.log2 + 1 ≠ Float.Model.Format.binary64.mantissaBits := by
    have hlog : mantissa.log2 < 52 := (Nat.log2_lt (Nat.ne_of_gt hpos)).mpr hlt
    show mantissa.log2 + 1 ≠ 53
    omega
  have hpack : pack .binary64 (.finite sign mantissa (-1074) hpos) =
      packComponents .binary64 sign 0#11 (BitVec.ofNat 52 mantissa) := by
    unfold pack
    dsimp only
    rw [if_neg (by decide), if_neg hbits]
  have hmantissa : (BitVec.ofNat 52 mantissa).toNat = mantissa := by
    rw [BitVec.toNat_ofNat, Nat.mod_eq_of_lt hlt]
  have hspecial : (0#11) ≠ -1#11 := by decide
  have hzero : BitVec.ofNat 52 mantissa ≠ 0#52 := ofNat_ne hlt (by decide) (by omega)
  show unpack .binary64 (pack .binary64 _) = _
  rw [hpack]
  unfold unpack
  simp only [unpackMantissa_packComponents, unpackExponent_packComponents, sign_packComponents,
    hspecial, hzero, if_false, if_true, dite_false, hmantissa]
  rfl

/-- What is packed in canonical form is unpacked as it was. -/
theorem unpack_pack {a : UnpackedFloat} (h : Canonical a) : (Float.Model.pack a).unpack = a := by
  cases a with
  | notANumber => rfl
  | infinity sign => cases sign <;> rfl
  | zero sign => cases sign <;> rfl
  | finite sign mantissa exponent hpos =>
    by_cases hfull : 2 ^ 52 ≤ mantissa
    · exact unpack_pack_full sign hpos h hfull
    · obtain rfl := h.full.resolve_left hfull
      exact unpack_pack_least sign hpos (Nat.lt_of_not_le hfull)

/-! ### The value of the bits -/

/-- What an unpacked float stands for. -/
def valueOf : UnpackedFloat → Value
  | .notANumber => .notANumber
  | .infinity sign => .infinite (sign == .negative)
  | .zero sign => .finite (sign == .negative) 0 (-1074)
  | .finite sign mantissa exponent _ => .finite (sign == .negative) mantissa exponent

/-- The eleven bits of the exponent. -/
def biasedOf (bits : UInt64) : Nat := bits.toNat / 2 ^ 52 % 2 ^ 11

/-- The 52 bits of the fraction. -/
def fractionOf (bits : UInt64) : Nat := bits.toNat % 2 ^ 52

/-- The sign bit. -/
def signOf (bits : UInt64) : Sign := if bits.toNat.testBit 63 then .negative else .positive

theorem toNat_unpackExponent (bits : UInt64) :
    (@unpackExponent .binary64 bits.toBitVec).toNat = biasedOf bits := by
  show (bits.toNat >>> 52) % 2 ^ 11 = _
  rw [Nat.shiftRight_eq_div_pow, biasedOf]

theorem toNat_unpackMantissa (bits : UInt64) :
    (@unpackMantissa .binary64 bits.toBitVec).toNat = fractionOf bits := by
  show (bits.toNat >>> 0) % 2 ^ 52 = _
  rw [Nat.shiftRight_zero, fractionOf]

theorem sign_unpackSign (bits : UInt64) :
    Sign.ofBitVec (@unpackSign .binary64 bits.toBitVec) = signOf bits := by
  have hbit : (@unpackSign .binary64 bits.toBitVec).toNat = bits.toNat >>> 63 % 2 := rfl
  have htest : bits.toNat.testBit 63 = decide (bits.toNat >>> 63 % 2 = 1) := by
    rw [Nat.testBit_eq_decide_div_mod_eq, Nat.shiftRight_eq_div_pow]
  rw [signOf, htest, ← hbit]
  generalize @unpackSign .binary64 bits.toBitVec = sign
  obtain rfl | rfl := BitVec.eq_zero_or_eq_one sign <;> rfl

/-- A bit pattern is unpacked by its fields. -/
inductive Unpacks (bits : UInt64) : UnpackedFloat → Prop where
  | infinity : biasedOf bits = 2047 → fractionOf bits = 0 → Unpacks bits (.infinity (signOf bits))
  | notANumber : biasedOf bits = 2047 → fractionOf bits ≠ 0 → Unpacks bits .notANumber
  | zero : biasedOf bits = 0 → fractionOf bits = 0 → Unpacks bits (.zero (signOf bits))
  | least (hpos : 0 < fractionOf bits) : biasedOf bits = 0 →
      Unpacks bits (.finite (signOf bits) (fractionOf bits) (-1074) hpos)
  | full (hpos : 0 < 2 ^ 52 + fractionOf bits) : biasedOf bits ≠ 0 → biasedOf bits < 2047 →
      Unpacks bits (.finite (signOf bits) (2 ^ 52 + fractionOf bits) (biasedOf bits - 1075) hpos)

theorem unpacks (bits : UInt64) : Unpacks bits (unpack .binary64 bits.toBitVec) := by
  have hexponent := toNat_unpackExponent bits
  have hmantissa := toNat_unpackMantissa bits
  have hsign := sign_unpackSign bits
  have hfraction : @unpackMantissa .binary64 bits.toBitVec = 0#52 ↔ fractionOf bits = 0 := by
    rw [← hmantissa, ← BitVec.toNat_inj]
    rfl
  by_cases hspecial : @unpackExponent .binary64 bits.toBitVec = -1#11
  · have hbiased : biasedOf bits = 2047 := by
      rw [← hexponent, hspecial]
      rfl
    by_cases hzero : @unpackMantissa .binary64 bits.toBitVec = 0#52
    · rw [unpack, if_pos hspecial, if_pos hzero, hsign]
      exact .infinity hbiased (hfraction.mp hzero)
    · rw [unpack, if_pos hspecial, if_neg hzero]
      exact .notANumber hbiased (mt hfraction.mpr hzero)
  · by_cases hleast : @unpackExponent .binary64 bits.toBitVec = 0#11
    · have hbiased : biasedOf bits = 0 := by
        rw [← hexponent, hleast]
        rfl
      by_cases hzero : @unpackMantissa .binary64 bits.toBitVec = 0#52
      · rw [unpack, if_neg hspecial, if_pos hleast, dif_pos hzero, hsign]
        exact .zero hbiased (hfraction.mp hzero)
      · rw [unpack, if_neg hspecial, if_pos hleast, dif_neg hzero]
        simp only [hsign, hmantissa, hexponent, hbiased]
        exact .least (Nat.pos_of_ne_zero (mt hfraction.mpr hzero)) hbiased
    · have hne : biasedOf bits ≠ 0 := by
        rw [← hexponent]
        exact fun h => hleast (BitVec.eq_of_toNat_eq h)
      have hlt : biasedOf bits < 2047 := by
        have hbound : biasedOf bits < 2 ^ 11 := Nat.mod_lt _ (by decide)
        have hne : biasedOf bits ≠ 2047 := by
          rw [← hexponent]
          exact fun h => hspecial (BitVec.eq_of_toNat_eq h)
        omega
      have hleading : (1#1 ++ @unpackMantissa .binary64 bits.toBitVec).toNat =
          2 ^ 52 + fractionOf bits := by
        rw [toNat_leading, hmantissa]
      rw [unpack, if_neg hspecial, if_neg hleast]
      simp only [hsign, hleading, hexponent]
      exact .full (by omega) hne hlt

theorem value_binary64 (bits : UInt64) :
    binary64.value bits.toNat =
      if biasedOf bits = 2047 then
        if fractionOf bits = 0 then .infinite (signOf bits == .negative) else .notANumber
      else if biasedOf bits = 0 then
        .finite (signOf bits == .negative) (fractionOf bits) (-1074)
      else .finite (signOf bits == .negative) (2 ^ 52 + fractionOf bits) (biasedOf bits - 1075) := by
  have hsign : bits.toNat.testBit (52 + 11) = (signOf bits == .negative) := by
    rw [signOf]
    cases bits.toNat.testBit 63 <;> rfl
  have hexponent : ∀ biased : Nat, biased ≠ 0 →
      binary64.leastExponent + ((biased - 1 : Nat) : Int) = biased - 1075 := by
    intro biased hne
    show (-1074 : Int) + _ = _
    omega
  rw [← hsign]
  show (if biasedOf bits = 2047 then _ else if biasedOf bits = 0 then _ else _) = _
  split
  · rfl
  · split
    · rfl
    · next hne =>
      rw [← hexponent _ hne]
      rfl

/-- Every float is unpacked to a canonical form that stands for the value of its bits. -/
theorem unpack_spec (x : Float) :
    Canonical x.toModel.unpack ∧ ofFloat x = valueOf x.toModel.unpack := by
  have hfraction : fractionOf x.toBits < 2 ^ 52 := Nat.mod_lt _ (by decide)
  have hunpacks : Unpacks x.toBits x.toModel.unpack := unpacks x.toBits
  rw [ofFloat, value_binary64]
  generalize x.toModel.unpack = unpacked at hunpacks ⊢
  cases hunpacks with
  | infinity hbiased hzero =>
    rw [if_pos hbiased, if_pos hzero]
    exact ⟨trivial, rfl⟩
  | notANumber hbiased hne =>
    rw [if_pos hbiased, if_neg hne]
    exact ⟨trivial, rfl⟩
  | zero hbiased hzero =>
    rw [if_neg (by omega), if_pos hbiased, hzero]
    exact ⟨trivial, rfl⟩
  | least hpos hbiased =>
    rw [if_neg (by omega), if_pos hbiased]
    exact ⟨⟨by omega, by omega, by omega, Or.inr rfl⟩, rfl⟩
  | full hpos hne hlt =>
    rw [if_neg (by omega), if_neg hne]
    exact ⟨⟨by omega, by omega, by omega, Or.inl (by omega)⟩, rfl⟩

/-! ### Signs -/

theorem unpack_abs (x : Float) : x.abs.toModel.unpack = x.toModel.unpack.abs := by
  have hcanonical := (unpack_spec x).1
  refine unpack_pack (a := x.toModel.unpack.abs) ?_
  cases hx : x.toModel.unpack with
  | notANumber => trivial
  | infinity sign => trivial
  | zero sign => trivial
  | finite sign mantissa exponent hpos => rwa [hx] at hcanonical

theorem unpack_neg (x : Float) : (-x).toModel.unpack = x.toModel.unpack.neg := by
  have hcanonical := (unpack_spec x).1
  refine unpack_pack (a := x.toModel.unpack.neg) ?_
  cases hx : x.toModel.unpack with
  | notANumber => trivial
  | infinity sign => trivial
  | zero sign => trivial
  | finite sign mantissa exponent hpos => rwa [hx] at hcanonical

end Downlink.Decimal
