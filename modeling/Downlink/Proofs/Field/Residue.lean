import Mathlib
import Downlink.Proofs.Field.Powers

/-!
# Bytes as binary polynomials

A byte is the binary polynomial whose coefficients are its bits, taken modulo
`x^8 + x^7 + x^2 + x + 1`. Exclusive or is the sum and the product by exponents is the product of
these residues. The polynomial is irreducible, so the residues are the field with 256 elements, and
the bytes are all of them.
-/

namespace Downlink.Field

open Polynomial

/-- The polynomial by which the field is made: `x^8 + x^7 + x^2 + x + 1`. -/
noncomputable def fieldPolynomial : (ZMod 2)[X] := X ^ 8 + X ^ 7 + X ^ 2 + X + 1

/-- Binary polynomials modulo the field polynomial. -/
abbrev Residue := AdjoinRoot fieldPolynomial

namespace Residue

/-- The residue of `x`. -/
noncomputable def alpha : Residue := AdjoinRoot.root fieldPolynomial

/-- A bit as a residue. -/
noncomputable def ofBit (bit : Bool) : Residue := if bit then 1 else 0

/-- The residue of the polynomial whose coefficients are the bits of a byte. -/
noncomputable def ofByte (byte : UInt8) : Residue :=
  ∑ k ∈ Finset.range 8, ofBit (byte.toNat.testBit k) * alpha ^ k

end Residue

open Residue

/-! ### The relation of alpha -/

theorem two_eq_zero : (2 : Residue) = 0 := by
  have h : (2 : ZMod 2) = 0 := by decide
  rw [← map_ofNat (AdjoinRoot.of fieldPolynomial) 2, h, map_zero]

theorem add_self (x : Residue) : x + x = 0 := by
  linear_combination x * two_eq_zero

theorem neg_eq (x : Residue) : -x = x := by
  linear_combination -x * two_eq_zero

theorem alpha_pow_eight : alpha ^ 8 = alpha ^ 7 + alpha ^ 2 + alpha + 1 := by
  have hroot : alpha ^ 8 + alpha ^ 7 + alpha ^ 2 + alpha + 1 = 0 := by
    have h : AdjoinRoot.mk fieldPolynomial (X ^ 8 + X ^ 7 + X ^ 2 + X + 1) = 0 :=
      AdjoinRoot.mk_self
    simp only [map_add, map_pow, map_one, AdjoinRoot.mk_X] at h
    exact h
  linear_combination hroot - (alpha ^ 7 + alpha ^ 2 + alpha + 1) * two_eq_zero

theorem ofBit_xor (a b : Bool) : ofBit (a ^^ b) = ofBit a + ofBit b := by
  cases a <;> cases b <;> simp [ofBit, add_self]

/-! ### Sums and powers of bytes -/

theorem ofByte_zero : ofByte 0 = 0 := by
  simp [ofByte, ofBit]

theorem ofByte_one : ofByte 1 = 1 := by
  have hbit : ∀ k < 8, k ≠ 0 → Nat.testBit 1 k = false := by decide
  rw [ofByte, Finset.sum_eq_single_of_mem 0 (by simp)]
  · simp [ofBit]
  · intro k hk hne
    show ofBit (Nat.testBit 1 k) * alpha ^ k = 0
    rw [hbit k (Finset.mem_range.mp hk) hne]
    simp [ofBit]

theorem ofByte_xor (a b : UInt8) : ofByte (a ^^^ b) = ofByte a + ofByte b := by
  simp only [ofByte, UInt8.toNat_xor, Nat.testBit_xor]
  rw [← Finset.sum_add_distrib]
  refine Finset.sum_congr rfl fun k _ => ?_
  rw [← add_mul, ← ofBit_xor]

theorem bits_timesAlpha (x : UInt8) :
    let bit := x.toNat.testBit
    (List.range 8).map (timesAlpha x).toNat.testBit =
      [bit 7, bit 0 ^^ bit 7, bit 1 ^^ bit 7, bit 2, bit 3, bit 4, bit 5, bit 6 ^^ bit 7] := by
  have hall : ∀ n < 256, (List.range 8).map (timesAlpha (UInt8.ofNat n)).toNat.testBit =
      [n.testBit 7, n.testBit 0 ^^ n.testBit 7, n.testBit 1 ^^ n.testBit 7, n.testBit 2,
        n.testBit 3, n.testBit 4, n.testBit 5, n.testBit 6 ^^ n.testBit 7] := by
    decide +kernel
  have hx := hall x.toNat x.toNat_lt
  rwa [UInt8.ofNat_toNat] at hx

theorem ofByte_timesAlpha (x : UInt8) : ofByte (timesAlpha x) = alpha * ofByte x := by
  have hbits := bits_timesAlpha x
  simp only [List.range_succ, List.range_zero, List.nil_append, List.cons_append, List.map_cons,
    List.map_nil, List.cons.injEq] at hbits
  obtain ⟨h0, h1, h2, h3, h4, h5, h6, h7, -⟩ := hbits
  simp only [ofByte, Finset.sum_range_succ, Finset.sum_range_zero, h0, h1, h2, h3, h4, h5, h6, h7,
    ofBit_xor]
  -- The bit that leaves the byte comes back as the residue of `x^8`.
  linear_combination -ofBit (x.toNat.testBit 7) * alpha_pow_eight

theorem ofByte_alphaPow (n : Nat) : ofByte (alphaPow n) = alpha ^ n := by
  induction n with
  | zero => rw [alphaPow_zero, ofByte_one, pow_zero]
  | succ n ih => rw [alphaPow_succ, ofByte_timesAlpha, ih, pow_succ']

theorem ofByte_mul (a b : UInt8) : ofByte (mul a b) = ofByte a * ofByte b := by
  by_cases ha : a = 0
  · rw [ha, mul_zero_left, ofByte_zero, zero_mul]
  by_cases hb : b = 0
  · rw [hb, mul_zero_right, ofByte_zero, mul_zero]
  obtain ⟨m, -, rfl⟩ := exists_alphaPow_eq a ha
  obtain ⟨n, -, rfl⟩ := exists_alphaPow_eq b hb
  rw [mul_alphaPow, ofByte_alphaPow, ofByte_alphaPow, ofByte_alphaPow, pow_add]

/-! ### Bytes and residues correspond -/

theorem alpha_pow_order : alpha ^ 255 = 1 := by
  have hzero : alphaPow 255 = alphaPow 0 := alphaPow_inj.mpr rfl
  rw [← ofByte_alphaPow, hzero, alphaPow_zero, ofByte_one]

theorem degree_fieldPolynomial : fieldPolynomial.degree = 8 := by
  unfold fieldPolynomial
  compute_degree!

instance : Nontrivial Residue :=
  AdjoinRoot.nontrivial fieldPolynomial (by rw [degree_fieldPolynomial]; decide)

theorem isUnit_ofByte (x : UInt8) (h : x ≠ 0) : IsUnit (ofByte x) := by
  obtain ⟨e, -, rfl⟩ := exists_alphaPow_eq x h
  rw [ofByte_alphaPow]
  exact (IsUnit.of_pow_eq_one alpha_pow_order (by decide)).pow e

theorem ofByte_eq_zero {x : UInt8} : ofByte x = 0 ↔ x = 0 := by
  constructor
  · intro h
    by_contra hne
    exact (isUnit_ofByte x hne).ne_zero h
  · rintro rfl
    exact ofByte_zero

theorem ofByte_injective : Function.Injective ofByte := by
  intro a b h
  have hsum : ofByte (a ^^^ b) = 0 := by rw [ofByte_xor, h, add_self]
  exact UInt8.xor_eq_zero_iff.mp (ofByte_eq_zero.mp hsum)

theorem alpha_pow_inj {m n : Nat} : alpha ^ m = alpha ^ n ↔ m % 255 = n % 255 := by
  rw [← ofByte_alphaPow, ← ofByte_alphaPow, ofByte_injective.eq_iff, alphaPow_inj]

theorem ofByte_surjective : Function.Surjective ofByte := by
  intro r
  obtain ⟨p, rfl⟩ := AdjoinRoot.mk_surjective r
  induction p using Polynomial.induction_on' with
  | add p q hp hq =>
    obtain ⟨a, ha⟩ := hp
    obtain ⟨b, hb⟩ := hq
    exact ⟨a ^^^ b, by rw [ofByte_xor, ha, hb, map_add]⟩
  | monomial n c =>
    have hc : ∀ c : ZMod 2, c = 0 ∨ c = 1 := by decide
    rcases hc c with rfl | rfl
    · exact ⟨0, by rw [ofByte_zero, monomial_zero_right, map_zero]⟩
    · exact ⟨alphaPow n, by
        rw [ofByte_alphaPow, ← X_pow_eq_monomial, map_pow, AdjoinRoot.mk_X, alpha]⟩

/-! ### The residues are a field -/

theorem isField_residue : IsField Residue where
  exists_pair_ne := ⟨0, 1, zero_ne_one⟩
  mul_comm := mul_comm
  mul_inv_cancel := by
    intro r hr
    obtain ⟨x, rfl⟩ := ofByte_surjective r
    have hx : x ≠ 0 := fun h => hr (ofByte_eq_zero.mpr h)
    exact (isUnit_ofByte x hx).exists_right_inv

theorem irreducible_fieldPolynomial : Irreducible fieldPolynomial := by
  have hmax : (Ideal.span {fieldPolynomial}).IsMaximal :=
    Ideal.Quotient.maximal_of_isField _ isField_residue
  have hne : fieldPolynomial ≠ 0 := by
    intro h
    have hdegree := degree_fieldPolynomial
    rw [h, degree_zero] at hdegree
    exact absurd hdegree (by decide)
  exact ((Ideal.span_singleton_prime hne).mp hmax.isPrime).irreducible

instance : Fact (Irreducible fieldPolynomial) := ⟨irreducible_fieldPolynomial⟩

end Downlink.Field
