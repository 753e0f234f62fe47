import Mathlib
import Downlink.Proofs.Field.Residue

/-!
# Folding exponents

The loop that folds an exponent ends after at most one pass more than the exponent has bytes above
the lowest, and leaves the remainder modulo 255. So exponents may be added before they are folded:
powers of `alpha` multiply as exponents add.
-/

namespace Downlink.Field

/-! ### Passes of the loop -/

/-- One pass: take off 255, then add what stands above the low byte to the low byte. -/
def pass (e : Nat) : Nat := ((e - order) >>> 8) + ((e - order) &&& order)

/-- From `e` the loop makes `n` passes and leaves `r`. It goes on from 255 upwards. -/
inductive Ends : Nat → Nat → Nat → Prop where
  | done {e : Nat} (h : e < order) : Ends 0 e e
  | more {n e r : Nat} (h : order ≤ e) (rest : Ends n (pass e) r) : Ends (n + 1) e r

theorem pass_eq (e : Nat) : pass e = (e - 255) / 256 + (e - 255) % 256 := by
  have hlow : (e - 255) &&& 255 = (e - 255) % 256 := Nat.and_two_pow_sub_one_eq_mod (e - 255) 8
  rw [pass, order, hlow, Nat.shiftRight_eq_div_pow]

theorem pass_mod (e : Nat) (h : order ≤ e) : pass e % 255 = e % 255 := by
  rw [order] at h
  rw [pass_eq]
  omega

theorem Ends.reduceExponent_eq {n e r : Nat} (h : Ends n e r) : reduceExponent e = r := by
  induction h with
  | done h => rw [reduceExponent, if_neg (Nat.not_le_of_lt h)]
  | more h rest ih =>
    rw [reduceExponent, if_pos h, ← ih, pass_eq]
    rfl

/-- A pass brings an exponent down by a byte, give or take what is added to the low byte. -/
theorem exists_ends (k e : Nat) (h : e < 256 ^ k + 254) : ∃ n ≤ k, Ends n e (e % 255) := by
  induction k generalizing e with
  | zero =>
    have hlt : e < 255 := by omega
    refine ⟨0, Nat.le_refl 0, ?_⟩
    rw [Nat.mod_eq_of_lt hlt]
    exact .done hlt
  | succ k ih =>
    by_cases hlt : e < order
    · have hmod : e % 255 = e := Nat.mod_eq_of_lt hlt
      refine ⟨0, Nat.zero_le _, ?_⟩
      rw [hmod]
      exact .done hlt
    · have hle : order ≤ e := Nat.le_of_not_lt hlt
      have hpass : pass e < 256 ^ k + 254 := by
        have hpos : 0 < 256 ^ k := Nat.pow_pos (by decide)
        rw [order] at hle
        rw [pow_succ] at h
        rw [pass_eq]
        omega
      obtain ⟨n, hn, hends⟩ := ih (pass e) hpass
      rw [pass_mod e hle] at hends
      exact ⟨n + 1, Nat.succ_le_succ hn, .more hle hends⟩

/-! ### Powers of alpha as products -/

theorem alphaPow_one : alphaPow 1 = 2 := by
  rw [alphaPow_succ, alphaPow_zero]
  decide

theorem alphaPow_eq_iterate_mul (n : Nat) : alphaPow n = (mul 2)^[n] 1 := by
  induction n with
  | zero => exact alphaPow_zero
  | succ n ih =>
    rw [Function.iterate_succ_apply', ← ih, ← alphaPow_one, mul_alphaPow, Nat.add_comm]

/-- The loop ends for every exponent, with its remainder. So the powers of `alpha` turn sums of
exponents into products, none of them is zero, and the `n`-th is the product of `n` times `alpha`,
for the multiplication of bytes as well as for binary polynomials. -/
theorem folded_exponents_multiply :
    (∀ e, ∃ n ≤ Nat.log 256 e + 1, Ends n e (reduceExponent e) ∧ reduceExponent e = e % 255) ∧
    (∀ m n, alphaPow (m + n) = mul (alphaPow m) (alphaPow n)) ∧
    (∀ n, alphaPow n ≠ 0) ∧
    ∀ n, alphaPow n = (mul 2)^[n] 1 ∧ Residue.ofByte (alphaPow n) = Residue.alpha ^ n := by
  refine ⟨fun e => ?_, fun m n => (mul_alphaPow m n).symm, alphaPow_ne_zero, fun n => ?_⟩
  · have hlog : e < 256 ^ (Nat.log 256 e + 1) := Nat.lt_pow_succ_log_self (by decide) e
    obtain ⟨n, hn, hends⟩ := exists_ends (Nat.log 256 e + 1) e (by omega)
    have hreduced := hends.reduceExponent_eq
    exact ⟨n, hn, hreduced.symm ▸ hends, hreduced⟩
  · exact ⟨alphaPow_eq_iterate_mul n, ofByte_alphaPow n⟩

example : Ends 2 0xFFFF 0 := by
  exact .more (by decide) (.more (by decide) (.done (by decide)))

end Downlink.Field
