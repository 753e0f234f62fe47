import Mathlib
import Downlink.Proofs.Parity.Codeword

/-!
# Linearity of the parity

A product by exponents is linear, also where a factor is zero and has no exponent of its own. So the
register is linear in its bytes and in what it takes, and the parity of the sum of two blocks is the
sum of their parities.
-/

namespace Downlink

open Downlink.Field

/-- The bytewise sum of two byte strings. -/
def xorBytes (xs ys : List UInt8) : List UInt8 := List.zipWith (· ^^^ ·) xs ys

/-- The bytewise sum of two parities. -/
def Parity.xor (p q : Parity) : Parity := Vector.zipWith (· ^^^ ·) p q

/-! ### Bytes -/

@[simp] theorem xorBytes_cons (x y : UInt8) (xs ys : List UInt8) :
    xorBytes (x :: xs) (y :: ys) = (x ^^^ y) :: xorBytes xs ys := rfl

theorem length_xorBytes (xs ys : List UInt8) (h : xs.length = ys.length) :
    (xorBytes xs ys).length = xs.length := by
  simp [xorBytes, h]

theorem xorBytes_append (xs ys xs' ys' : List UInt8) (h : xs.length = ys.length) :
    xorBytes (xs ++ xs') (ys ++ ys') = xorBytes xs ys ++ xorBytes xs' ys' :=
  List.zipWith_append h

theorem xor_xor_xor_comm (a b c d : UInt8) : a ^^^ b ^^^ (c ^^^ d) = a ^^^ c ^^^ (b ^^^ d) := by
  ac_rfl

theorem Field.mul_xor (a b c : UInt8) : mul (a ^^^ b) c = mul a c ^^^ mul b c := by
  apply ofByte_injective
  simp only [ofByte_mul, ofByte_xor]
  ring

/-! ### The register -/

namespace Parity

theorem getD_xor (p q : Parity) (i : Nat) : (p.xor q).getD i 0 = p.getD i 0 ^^^ q.getD i 0 := by
  by_cases h : i < parityBytes
  · simp [Parity.xor, Vector.getD, h]
  · simp [Parity.xor, Vector.getD, h]

theorem zero_xor_zero :
    Parity.xor (Vector.replicate parityBytes 0) (Vector.replicate parityBytes 0) =
      Vector.replicate parityBytes 0 := by
  apply Vector.ext
  intro i hi
  simp [Parity.xor]

end Parity

theorem shift_xor (p q : Parity) (x y : UInt8) :
    ParityRegister.shift (p.xor q) (x ^^^ y) =
      (ParityRegister.shift p x).xor (ParityRegister.shift q y) := by
  have hlead : x ^^^ y ^^^ (p.xor q).getD 0 0 = x ^^^ p.getD 0 0 ^^^ (y ^^^ q.getD 0 0) := by
    rw [Parity.getD_xor, xor_xor_xor_comm]
  apply Vector.ext
  intro i hi
  simp only [ParityRegister.shift, Parity.xor, Vector.getElem_ofFn, Vector.getElem_zipWith]
  rw [← Parity.xor, hlead, Parity.getD_xor, mul_xor, xor_xor_xor_comm]

theorem foldl_shift_xor (a b : List UInt8) (h : a.length = b.length) (p q : Parity) :
    (xorBytes a b).foldl ParityRegister.shift (p.xor q) =
      (a.foldl ParityRegister.shift p).xor (b.foldl ParityRegister.shift q) := by
  induction a generalizing b p q with
  | nil =>
    rw [List.length_eq_zero_iff.mp h.symm]
    rfl
  | cons x a ih =>
    obtain ⟨y, b, rfl⟩ := List.exists_cons_of_length_eq_add_one h.symm
    rw [xorBytes_cons, List.foldl_cons, List.foldl_cons, List.foldl_cons, shift_xor,
      ih b (by simpa using h)]

theorem remainder_xorBytes (a b : List UInt8) (h : a.length = b.length) :
    remainder (xorBytes a b) = (remainder a).xor (remainder b) := by
  have hfold := foldl_shift_xor a b h (Vector.replicate parityBytes 0)
    (Vector.replicate parityBytes 0)
  rwa [Parity.zero_xor_zero] at hfold

end Downlink
