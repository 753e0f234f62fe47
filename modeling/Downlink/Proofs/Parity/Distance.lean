import Mathlib
import Downlink.Proofs.Parity.Codeword

/-!
# The distance of the code

The roots of the generator are 32 powers in a row of `alpha ^ 11`, which has 255 different powers.
So a polynomial with up to 32 terms that vanishes at all of them is zero, and two different
codewords of one length differ in at least 33 bytes.
-/

namespace Downlink

open Polynomial Downlink.Field Downlink.Field.Residue

/-! ### Polynomials with few terms -/

/-- A polynomial with no more terms than there are roots in a row among the powers of `β` is zero,
if `β` has a power of its own for every term. -/
theorem eq_zero_of_consecutive_roots {K : Type} [CommRing K] [IsDomain K] (p : K[X]) (β : K)
    (start : Nat) (hβ : β ≠ 0) (hpow : Set.InjOn (fun k => β ^ k) p.support)
    (hroots : ∀ i < p.support.card, p.eval (β ^ (start + i)) = 0) : p = 0 := by
  let place := p.support.equivFin.symm
  let point : Fin p.support.card → K := fun j => β ^ (place j : Nat)
  let term : Fin p.support.card → K := fun j => p.coeff (place j) * β ^ (start * (place j : Nat))
  have hpoint : Function.Injective point := by
    intro i j h
    exact place.injective (Subtype.ext (hpow (place i).2 (place j).2 h))
  have hsum : ∀ i : Fin p.support.card, ∑ j, term j * point j ^ (i : Nat) = 0 := by
    intro i
    rw [← hroots i i.isLt, eval_eq_sum, sum_def, ← Finset.sum_coe_sort p.support,
      ← place.sum_comp]
    refine Finset.sum_congr rfl fun j _ => ?_
    simp only [term, point]
    ring
  have hterm : term = 0 := Matrix.eq_zero_of_forall_pow_sum_mul_pow_eq_zero hpoint hsum
  by_contra hne
  obtain ⟨k, hk⟩ := nonempty_support_iff.mpr hne
  have hzero := congrFun hterm (place.symm ⟨k, hk⟩)
  simp only [term, Equiv.apply_symm_apply, Pi.zero_apply, mul_eq_zero] at hzero
  rcases hzero with hcoeff | hpower
  · exact mem_support_iff.mp hk hcoeff
  · exact pow_ne_zero _ hβ hpower

/-! ### Terms of a byte string -/

theorem degree_bytePolynomial_lt (bytes : List UInt8) :
    (bytePolynomial bytes).degree < bytes.length := by
  induction bytes with
  | nil => simp [bytePolynomial]
  | cons b rest ih =>
    have hhead := degree_C_mul_X_pow_le rest.length (ofByte b)
    have hlt : ((rest.length : Nat) : WithBot Nat) < ((b :: rest).length : Nat) := by
      exact_mod_cast Nat.lt_succ_self _
    exact lt_of_le_of_lt (degree_add_le _ _) (max_lt (lt_of_le_of_lt hhead hlt) (ih.trans hlt))

theorem bytePolynomial_eq_zero (bytes : List UInt8) (h : bytePolynomial bytes = 0) :
    ∀ b ∈ bytes, b = 0 := by
  induction bytes with
  | nil => simp
  | cons b rest ih =>
    have hrest : (bytePolynomial rest).coeff rest.length = 0 :=
      coeff_eq_zero_of_degree_lt (degree_bytePolynomial_lt rest)
    have hb : b = 0 := by
      have hcoeff := congrArg (fun p => p.coeff rest.length) h
      simp only [bytePolynomial, coeff_add, coeff_C_mul_X_pow, hrest, if_true, add_zero,
        coeff_zero] at hcoeff
      exact ofByte_eq_zero.mp hcoeff
    rw [bytePolynomial, hb, ofByte_zero, C_0, zero_mul, zero_add] at h
    intro x hx
    rcases List.mem_cons.mp hx with rfl | hx
    · exact hb
    · exact ih h x hx

theorem card_support_bytePolynomial_le (bytes : List UInt8) :
    (bytePolynomial bytes).support.card ≤ bytes.countP (· != 0) := by
  induction bytes with
  | nil => simp [bytePolynomial]
  | cons b rest ih =>
    by_cases hb : b = 0
    · simpa [bytePolynomial, hb, ofByte_zero] using ih
    · have hhead : (C (ofByte b) * X ^ rest.length).support.card ≤ 1 :=
        card_support_C_mul_X_pow_le_one
      have hunion := (Finset.card_le_card support_add).trans
        (Finset.card_union_le (C (ofByte b) * X ^ rest.length).support
          (bytePolynomial rest).support)
      rw [List.countP_cons_of_pos (by simpa using hb)]
      exact hunion.trans (by omega)

/-- The powers of `alpha ^ 11` below 255 are different. -/
theorem injOn_powers (bytes : List UInt8) (h : bytes.length ≤ 255) :
    Set.InjOn (fun k => (alpha ^ 11) ^ k) (bytePolynomial bytes).support := by
  have hbelow : ∀ k ∈ (bytePolynomial bytes).support, k < 255 := by
    intro k hk
    have hlt := lt_of_le_of_lt (le_degree_of_mem_supp k hk) (degree_bytePolynomial_lt bytes)
    have hlt : k < bytes.length := by exact_mod_cast hlt
    omega
  intro j hj k hk hjk
  have hj := hbelow j hj
  have hk := hbelow k hk
  simp only [← pow_mul, alpha_pow_inj] at hjk
  omega

/-- A byte string of up to 255 bytes that vanishes at the roots of the generator has at least 33
bytes that are not zero, unless it has none. -/
theorem countP_of_roots (bytes : List UInt8) (hlen : bytes.length ≤ 255)
    (hroots : ∀ i < parityBytes, (bytePolynomial bytes).eval (alpha ^ rootExponent i) = 0)
    (hne : ∃ b ∈ bytes, b ≠ 0) : 33 ≤ bytes.countP (· != 0) := by
  by_contra hfew
  have hcard : (bytePolynomial bytes).support.card ≤ parityBytes := by
    have hle := card_support_bytePolynomial_le bytes
    simp only [parityBytes]
    omega
  have hzero : bytePolynomial bytes = 0 := by
    apply eq_zero_of_consecutive_roots _ (alpha ^ 11) 112
    · exact pow_ne_zero _ (IsUnit.of_pow_eq_one alpha_pow_order (by decide)).ne_zero
    · exact injOn_powers bytes hlen
    · intro i hi
      rw [← pow_mul]
      exact hroots i (lt_of_lt_of_le hi hcard)
  obtain ⟨b, hb, hb0⟩ := hne
  exact hb0 (bytePolynomial_eq_zero bytes hzero b hb)

/-! ### Distances of byte strings -/

/-- The number of places in which two byte strings differ. -/
def byteDistance (xs ys : List UInt8) : Nat := (xs.zip ys).countP fun p => p.1 != p.2

theorem byteDistance_comm (xs ys : List UInt8) : byteDistance xs ys = byteDistance ys xs := by
  induction xs generalizing ys with
  | nil => simp [byteDistance]
  | cons x xs ih =>
    cases ys with
    | nil => simp [byteDistance]
    | cons y ys =>
      have hrest := ih ys
      simp only [byteDistance, List.zip_cons_cons, List.countP_cons] at hrest ⊢
      rw [hrest, bne_comm]

theorem byteDistance_triangle (xs ys zs : List UInt8) (h₁ : xs.length = ys.length)
    (h₂ : ys.length = zs.length) :
    byteDistance xs zs ≤ byteDistance xs ys + byteDistance ys zs := by
  induction xs generalizing ys zs with
  | nil => simp [byteDistance]
  | cons x xs ih =>
    obtain ⟨y, ys, rfl⟩ := List.exists_cons_of_length_eq_add_one h₁.symm
    obtain ⟨z, zs, rfl⟩ := List.exists_cons_of_length_eq_add_one (h₂.symm.trans h₁.symm)
    have hrest := ih ys zs (by simpa using h₁) (by simpa using h₂)
    simp only [byteDistance, List.zip_cons_cons, List.countP_cons] at hrest ⊢
    by_cases hxz : x = z
    · simp only [hxz, bne_self_eq_false, Bool.false_eq_true, if_false]
      omega
    · by_cases hxy : x = y
      · have hyz : y ≠ z := hxy ▸ hxz
        simp [hxy, hyz]
        omega
      · simp [hxz, hxy]
        omega

theorem countP_xor (xs ys : List UInt8) :
    (List.zipWith (· ^^^ ·) xs ys).countP (· != 0) = byteDistance xs ys := by
  induction xs generalizing ys with
  | nil => simp [byteDistance]
  | cons x xs ih =>
    cases ys with
    | nil => simp [byteDistance]
    | cons y ys =>
      have hrest := ih ys
      have hxor : (x ^^^ y != 0) = (x != y) := by
        rw [bne, bne, Bool.not_inj_iff, Bool.eq_iff_iff, beq_iff_eq, beq_iff_eq,
          UInt8.xor_eq_zero_iff]
      simp only [byteDistance, List.zip_cons_cons, List.zipWith_cons_cons, List.countP_cons]
        at hrest ⊢
      rw [hrest, hxor]

theorem eq_of_byteDistance_eq_zero (xs ys : List UInt8) (hlen : xs.length = ys.length)
    (h : byteDistance xs ys = 0) : xs = ys := by
  induction xs generalizing ys with
  | nil => exact (List.length_eq_zero_iff.mp hlen.symm).symm
  | cons x xs ih =>
    obtain ⟨y, ys, rfl⟩ := List.exists_cons_of_length_eq_add_one hlen.symm
    simp only [byteDistance, List.zip_cons_cons, List.countP_cons] at h
    have hrest := ih ys (by simpa using hlen) (by simp only [byteDistance]; omega)
    have hhead : x = y := by
      by_contra hne
      simp [hne] at h
    rw [hhead, hrest]

/-! ### Different blocks -/

theorem byteDistance_codewords (a b : List UInt8) (hlen : a.length = b.length)
    (h : a.length ≤ 223) (hne : a ≠ b) :
    33 ≤ byteDistance (a ++ (remainder a).toList) (b ++ (remainder b).toList) := by
  have hwords : (a ++ (remainder a).toList).length = (b ++ (remainder b).toList).length := by
    simp only [List.length_append, length_toList_parity, hlen]
  have hsum := bytePolynomial_xor _ _ hwords
  rw [← countP_xor]
  apply countP_of_roots
  · simp only [List.length_zipWith, List.length_append, length_toList_parity]
    omega
  · intro i hi
    rw [hsum, eval_add, eval_codeword a i hi, eval_codeword b i hi, add_zero]
  · by_contra hzero
    have hall : byteDistance (a ++ (remainder a).toList) (b ++ (remainder b).toList) = 0 := by
      rw [← countP_xor, List.countP_eq_zero]
      intro x hx hx0
      exact hzero ⟨x, hx, by simpa using hx0⟩
    exact hne (List.append_inj_left (eq_of_byteDistance_eq_zero _ _ hwords hall) hlen)

/-- Two different blocks of one length have codewords that differ in at least 33 bytes. So a
received word that is off one of them by at most 16 bytes is off the other by more. -/
theorem parityOf_separates_blocks (a b : List UInt8) (hlen : a.length = b.length)
    (h : a.length ≤ 223) (hne : a ≠ b) :
    ∃ p q : Parity, parityOf a = .ok p ∧ parityOf b = .ok q ∧
      33 ≤ byteDistance (a ++ p.toList) (b ++ q.toList) ∧
      ∀ received : List UInt8, received.length = a.length + 32 →
        byteDistance received (a ++ p.toList) ≤ 16 →
          16 < byteDistance received (b ++ q.toList) := by
  have hfar := byteDistance_codewords a b hlen h hne
  refine ⟨remainder a, remainder b, parityOf_eq_ok a h, parityOf_eq_ok b (hlen ▸ h), hfar, ?_⟩
  intro received hreceived hnear
  have htriangle := byteDistance_triangle (a ++ (remainder a).toList) received
    (b ++ (remainder b).toList)
    (by rw [List.length_append, length_toList_parity, hreceived])
    (by rw [List.length_append, length_toList_parity, hreceived, hlen])
  rw [byteDistance_comm _ received] at htriangle
  omega

theorem parityOf_separates_blocks_last_bit :
    (List.replicate 222 (0 : UInt8) ++ [0]).length =
        (List.replicate 222 (0 : UInt8) ++ [1]).length ∧
      (List.replicate 222 (0 : UInt8) ++ [0]).length ≤ 223 ∧
      List.replicate 222 (0 : UInt8) ++ [0] ≠ List.replicate 222 0 ++ [1] ∧
      ∃ p q : Parity, parityOf (List.replicate 222 0 ++ [0]) = .ok p ∧
        parityOf (List.replicate 222 0 ++ [1]) = .ok q ∧
        33 ≤ byteDistance (List.replicate 222 0 ++ [0] ++ p.toList)
          (List.replicate 222 0 ++ [1] ++ q.toList) ∧
        ∀ received : List UInt8,
          received.length = (List.replicate 222 (0 : UInt8) ++ [0]).length + 32 →
          byteDistance received (List.replicate 222 0 ++ [0] ++ p.toList) ≤ 16 →
            16 < byteDistance received (List.replicate 222 0 ++ [1] ++ q.toList) := by
  have hlen : (List.replicate 222 (0 : UInt8) ++ [0]).length =
      (List.replicate 222 (0 : UInt8) ++ [1]).length := by
    rw [List.length_append, List.length_append, List.length_singleton, List.length_singleton]
  have hle : (List.replicate 222 (0 : UInt8) ++ [0]).length ≤ 223 := by
    rw [List.length_append, List.length_replicate, List.length_singleton]
  have hne : List.replicate 222 (0 : UInt8) ++ [0] ≠ List.replicate 222 0 ++ [1] := by
    rw [Ne, List.append_right_inj]
    decide
  exact ⟨hlen, hle, hne, parityOf_separates_blocks _ _ hlen hle hne⟩

end Downlink
