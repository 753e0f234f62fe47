import Mathlib
import Downlink.Proofs.Decimal.Places
import Downlink.Proofs.Station.Description

/-!
# Positions that are read back

A coordinate is written with four places. What is read back lies off the equator, the poles and the
two meridians exactly if the rounded coordinate does.
-/

namespace Downlink.Station

open Float.Model (UnpackedFloat)
open Downlink.Decimal (ofUnits scaled signOfBool)

/-- A coordinate rounded to four places, in units of the fourth. -/
def unitsOf (x : Float) : Nat :=
  match Decimal.ofFloat x with
  | .finite _ significand exponent => scaled 4 significand exponent
  | _ => 0

/-! ### Limits of coordinates -/

theorem lt_iff_compare (x y : Float) :
    x < y ↔ x.toModel.unpack.compare y.toModel.unpack = some .lt := by
  show decide (x.toModel < y.toModel) = true ↔ _
  rw [decide_eq_true_iff]
  show (x.toModel.unpack.compare y.toModel.unpack == some .lt) = true ↔ _
  exact beq_iff_eq

/-- A whole number of degrees that a coordinate stays below. -/
structure Limit where
  value : Float
  degrees : Nat
  shift : Nat
  degrees_le : degrees ≤ 180
  full : 2 ^ 52 ≤ degrees * 2 ^ shift ∧ degrees * 2 ^ shift < 2 ^ 53
  unpack_value : ∃ h, value.toModel.unpack = .finite .positive (degrees * 2 ^ shift) (-shift) h
  read : Float.ofScientific (degrees * 10000) true 4 = value

namespace Limit

/-- The latitude of a pole. -/
def latitude : Limit where
  value := 90.0
  degrees := 90
  shift := 46
  degrees_le := by decide
  full := by decide
  unpack_value := ⟨by decide, by rfl⟩
  read := by decide +kernel

/-- The longitude half way round. -/
def longitude : Limit where
  value := 180.0
  degrees := 180
  shift := 45
  degrees_le := by decide
  full := by decide
  unpack_value := ⟨by decide, by rfl⟩
  read := by decide +kernel

/-- Between zero and the limit, on either side of zero. -/
def Inside (l : Limit) (x : Float) : Prop := 0.0 < x.abs ∧ x.abs < l.value

/-- A float is inside a limit by its exponent, or by its mantissa if the exponents are the same. -/
theorem inside_iff (l : Limit) (x : Float) :
    l.Inside x ↔ ∃ sign mantissa exponent h,
      x.toModel.unpack = .finite sign mantissa exponent h ∧
        (exponent < -l.shift ∨ exponent = -l.shift ∧ mantissa < l.degrees * 2 ^ l.shift) := by
  obtain ⟨hpos, hvalue⟩ := l.unpack_value
  rw [Inside, lt_iff_compare, lt_iff_compare, Decimal.unpack_abs, Decimal.unpack_zero, hvalue]
  cases x.toModel.unpack with
  | notANumber => simp [UnpackedFloat.abs, UnpackedFloat.compare]
  | infinity sign => simp [UnpackedFloat.abs, UnpackedFloat.compare]
  | zero sign => simp [UnpackedFloat.abs, UnpackedFloat.compare]
  | finite sign mantissa exponent h =>
    simp [UnpackedFloat.abs, UnpackedFloat.compare, Ordering.then_eq_lt, compare_lt_iff_lt, h]

/-! ### Four places -/

/-- Rounding takes no coordinate past its limit. -/
theorem units_le (l : Limit) {x : Float} (h : l.Inside x) :
    ∃ negative significand exponent,
      Decimal.ofFloat x = .finite negative significand exponent ∧
        scaled 4 significand exponent ≤ l.degrees * 10000 := by
  obtain ⟨sign, mantissa, exponent, hpos, hunpack, hbelow⟩ := (l.inside_iff x).mp h
  obtain ⟨hcanonical, hvalue⟩ := Decimal.unpack_spec x
  rw [hunpack] at hcanonical hvalue
  refine ⟨_, _, _, hvalue, ?_⟩
  obtain ⟨shift, rfl⟩ : ∃ shift : Nat, exponent = -shift := ⟨(-exponent).toNat, by omega⟩
  have hmantissa : mantissa ≤ l.degrees * 2 ^ shift := by
    by_cases hsame : shift = l.shift
    · subst hsame
      omega
    · have hpower : 2 ^ (l.shift + 1) ≤ 2 ^ shift := Nat.pow_le_pow_right (by decide) (by omega)
      calc mantissa ≤ 2 ^ 53 := hcanonical.mantissa_lt.le
        _ ≤ l.degrees * 2 ^ l.shift * 2 := Nat.mul_le_mul_right 2 l.full.1
        _ = l.degrees * 2 ^ (l.shift + 1) := by rw [Nat.mul_assoc, ← pow_succ]
        _ ≤ l.degrees * 2 ^ shift := Nat.mul_le_mul_left _ hpower
  rw [Decimal.scaled_neg]
  refine Decimal.roundDiv_le (Nat.two_pow_pos shift) ?_
  calc mantissa * 10 ^ 4 ≤ l.degrees * 2 ^ shift * 10 ^ 4 := Nat.mul_le_mul_right _ hmantissa
    _ = l.degrees * 10000 * 2 ^ shift := by ring

/-- What is read of fewer units than the limit has is inside the limit. -/
theorem inside_ofUnits (l : Limit) (negative : Bool) {units : Nat} (hpos : 0 < units)
    (hlt : units < l.degrees * 10000) : l.Inside (ofUnits negative units) := by
  have hdegrees := l.degrees_le
  obtain ⟨mantissa, shift, h, hunpack, hfull, hmlt, hbelow, -⟩ :=
    Decimal.exists_unpack_ofUnits negative hpos (by omega)
  refine (l.inside_iff _).mpr ⟨_, mantissa, -shift, h, hunpack, ?_⟩
  have hunits : units * 2 ^ shift + 2 ^ shift ≤ l.degrees * 2 ^ shift * 10000 := by
    calc units * 2 ^ shift + 2 ^ shift = (units + 1) * 2 ^ shift := by ring
      _ ≤ l.degrees * 10000 * 2 ^ shift := Nat.mul_le_mul_right _ hlt
      _ = l.degrees * 2 ^ shift * 10000 := by ring
  have hpower : 0 < 2 ^ shift := Nat.two_pow_pos shift
  -- Otherwise the float is at the limit or past it, and that is more than rounding makes up for.
  by_contra hout
  rw [not_or, not_and] at hout
  rcases Nat.lt_trichotomy shift l.shift with hshort | rfl | hlong
  · have hdouble : l.degrees * 2 ^ shift * 2 ≤ l.degrees * 2 ^ l.shift := by
      rw [Nat.mul_assoc, ← pow_succ]
      exact Nat.mul_le_mul_left _ (Nat.pow_le_pow_right (by decide) hshort)
    have hlimit := l.full.2
    omega
  · have hlimit : l.degrees * 2 ^ l.shift ≤ mantissa := Nat.le_of_not_lt (hout.2 rfl)
    have hplaces : 2 ^ 52 ≤ 180 * 2 ^ l.shift :=
      l.full.1.trans (Nat.mul_le_mul_right _ l.degrees_le)
    omega
  · exact hout.1 (by omega)

theorem not_inside_limit (l : Limit) (negative : Bool) :
    ¬ l.Inside (ofUnits negative (l.degrees * 10000)) := by
  obtain ⟨hpos, hvalue⟩ := l.unpack_value
  have hdegrees : l.degrees * 10000 ≠ 0 := by
    intro hzero
    rw [show l.degrees = 0 by omega, Nat.zero_mul] at hpos
    exact absurd hpos (by decide)
  have hunpack : (ofUnits negative (l.degrees * 10000)).toModel.unpack =
      .finite (signOfBool negative) (l.degrees * 2 ^ l.shift) (-l.shift) hpos := by
    rw [ofUnits, if_neg hdegrees, l.read]
    cases negative with
    | true =>
      rw [if_pos rfl, Decimal.unpack_neg, hvalue]
      rfl
    | false =>
      rw [if_neg Bool.false_ne_true, hvalue]
      rfl
  rw [inside_iff, hunpack]
  rintro ⟨sign, mantissa, exponent, h, heq, hbelow⟩
  obtain ⟨-, rfl, rfl⟩ := UnpackedFloat.finite.inj heq
  omega

theorem not_inside_zero (l : Limit) (negative : Bool) : ¬ l.Inside (ofUnits negative 0) := by
  rw [inside_iff, Decimal.unpack_ofUnits_zero]
  rintro ⟨sign, mantissa, exponent, h, heq, -⟩
  exact UnpackedFloat.noConfusion heq

theorem inside_ofUnits_iff (l : Limit) (negative : Bool) {units : Nat}
    (h : units ≤ l.degrees * 10000) :
    l.Inside (ofUnits negative units) ↔ 0 < units ∧ units < l.degrees * 10000 := by
  constructor
  · intro hinside
    constructor
    · by_contra hzero
      obtain rfl : units = 0 := by omega
      exact l.not_inside_zero negative hinside
    · by_contra hlimit
      obtain rfl : units = l.degrees * 10000 := by omega
      exact l.not_inside_limit negative hinside
  · intro hunits
    exact l.inside_ofUnits negative hunits.1 hunits.2

/-! ### Coordinates that are read back -/

/-- A coordinate inside its limit is read back as a float that is written in the same way. It is
inside the limit if the rounded coordinate is. -/
theorem exists_readCoordinate (l : Limit) {x : Float} (h : l.Inside x) :
    ∃ y, (∀ fault, readCoordinate fault (placesText x) = .ok y) ∧ placesText y = placesText x ∧
      (l.Inside y ↔ 0 < unitsOf x ∧ unitsOf x < l.degrees * 10000) := by
  obtain ⟨negative, significand, exponent, hvalue, hle⟩ := l.units_le h
  have hdegrees := l.degrees_le
  have hunits : unitsOf x = scaled 4 significand exponent := by
    rw [unitsOf, hvalue]
  have hliteral := Decimal.ofChars?_fixed (by decide : 0 < 4) negative significand exponent
  refine ⟨ofUnits negative (unitsOf x), ?_, ?_, ?_⟩
  · intro fault
    rw [readCoordinate, trim_placesText, Decimal.float?, placesText, hvalue, hliteral, Option.map_some,
      hunits, ← Decimal.toFloat_units negative (by omega)]
    rfl
  · obtain ⟨significand', exponent', hvalue', hunits'⟩ :=
      Decimal.exists_ofFloat_ofUnits negative (show unitsOf x ≤ 2 ^ 21 by omega)
    rw [← String.toList_inj, placesText, placesText, hvalue', hvalue, Decimal.toList_fixed_finite,
      Decimal.toList_fixed_finite, hunits', hunits]
  · rw [hunits]
    exact l.inside_ofUnits_iff negative hle

end Limit

/-! ### Stations that are read back -/

theorem hasPosition_iff (s : Station) :
    s.hasPosition = true ↔
      Limit.latitude.Inside s.latitude ∧ Limit.longitude.Inside s.longitude := by
  simp only [hasPosition, Bool.and_eq_true, decide_eq_true_eq, Limit.Inside, and_assoc]
  rfl

theorem read_render {s : Station} {latitude longitude : Float} (h : IsToken s.callsign.toList)
    (hlatitude : ∀ fault, readCoordinate fault (placesText s.latitude) = .ok latitude)
    (hlongitude : ∀ fault, readCoordinate fault (placesText s.longitude) = .ok longitude) :
    read s.render = .ok
      ⟨s.callsign, UInt16.ofNat (s.resetCount.toNat % resetModulus), latitude, longitude⟩ := by
  rw [read, readAs, isKeyed_render_of_isWord h.toIsWord fun hsign => absurd hsign h.no_sign,
    if_neg Bool.false_ne_true, words_render_of_isWord h.toIsWord]
  simp only [readWords, List.getElem?_cons_zero, List.getElem?_cons_succ, optional, resetField,
    latitudeField, longitudeField, readResetCount_toString_mod, hlatitude, hlongitude, settle]
  rfl

/-- A station with a position is read back with one exactly if its coordinates, rounded to four
places, still are the coordinates of one. What was read back once keeps its callsign and coordinates
whenever it is saved and read again, whatever its count has become. -/
theorem position_kept_iff (s : Station) (hcallsign : IsToken s.callsign.toList)
    (hposition : s.hasPosition = true) :
    ∃ t, read s.render = .ok t ∧ t.callsign = s.callsign ∧
      (t.hasPosition = true ↔
        (0 < unitsOf s.latitude ∧ unitsOf s.latitude < 900000) ∧
        (0 < unitsOf s.longitude ∧ unitsOf s.longitude < 1800000)) ∧
      ∀ count : UInt16, read { t with resetCount := count }.render =
        .ok { t with resetCount := UInt16.ofNat (count.toNat % resetModulus) } := by
  obtain ⟨hlatitude, hlongitude⟩ := s.hasPosition_iff.mp hposition
  obtain ⟨latitude, hread, htext, hinside⟩ := Limit.latitude.exists_readCoordinate hlatitude
  obtain ⟨longitude, hread', htext', hinside'⟩ := Limit.longitude.exists_readCoordinate hlongitude
  refine ⟨_, read_render hcallsign hread hread', rfl, ?_, ?_⟩
  · rw [hasPosition_iff]
    exact and_congr hinside hinside'
  · intro count
    rw [← htext] at hread
    rw [← htext'] at hread'
    exact @read_render ⟨s.callsign, count, latitude, longitude⟩ _ _ hcallsign hread hread'

theorem position_kept_iff_initial :
    (IsToken initial.callsign.toList ∧ initial.hasPosition = true) ∧
    ∃ t, read initial.render = .ok t ∧ t.callsign = initial.callsign ∧
      (t.hasPosition = true ↔
        (0 < unitsOf initial.latitude ∧ unitsOf initial.latitude < 900000) ∧
        (0 < unitsOf initial.longitude ∧ unitsOf initial.longitude < 1800000)) ∧
      ∀ count : UInt16, read { t with resetCount := count }.render =
        .ok { t with resetCount := UInt16.ofNat (count.toNat % resetModulus) } := by
  have hcallsign : IsToken initial.callsign.toList := by decide
  have hposition : initial.hasPosition = true := by decide
  exact ⟨⟨hcallsign, hposition⟩, position_kept_iff initial hcallsign hposition⟩

/-- Less than half a unit from the pole is written as on the pole. -/
theorem position_lost_near_pole :
    ¬ ∀ s : Station, s.callsign ≠ "" → (∀ c ∈ s.callsign.toList, c.isAlphanum = true) →
      s.hasPosition = true → ∃ t, read s.render = .ok t ∧ t.hasPosition = true := by
  intro hkept
  have hlost : (read (⟨noCallsign, 1, 89.99996, 10.0⟩ : Station).render).toOption.map hasPosition =
      some false := by
    decide +kernel
  obtain ⟨t, hread, hposition⟩ := hkept ⟨noCallsign, 1, 89.99996, 10.0⟩ (by decide)
    clean_unset.callsign (by decide)
  rw [hread] at hlost
  exact Bool.noConfusion (hposition.symm.trans (Option.some.inj hlost))

end Downlink.Station
