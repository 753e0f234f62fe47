import Mathlib
import Downlink.Parity
import Downlink.Proofs.Field.Residue

/-!
# Codewords

A byte string is a polynomial over the field, its first byte in front. The generator is the product
of its 32 linear factors, and the register keeps what it has taken, followed by its own bytes, a
multiple of the generator. So a codeword of any length vanishes at the 32 roots.
-/

namespace Downlink

open Polynomial Downlink.Field Downlink.Field.Residue

/-! ### Byte strings as polynomials -/

/-- The polynomial of a byte string, the first byte with the highest power. -/
noncomputable def bytePolynomial : List UInt8 → Residue[X]
  | [] => 0
  | b :: rest => C (ofByte b) * X ^ rest.length + bytePolynomial rest

theorem bytePolynomial_append (xs ys : List UInt8) :
    bytePolynomial (xs ++ ys) = bytePolynomial xs * X ^ ys.length + bytePolynomial ys := by
  induction xs with
  | nil => simp [bytePolynomial]
  | cons x xs ih =>
    simp only [List.cons_append, bytePolynomial, List.length_append, ih]
    ring

theorem bytePolynomial_zeros (n : Nat) : bytePolynomial (List.replicate n 0) = 0 := by
  induction n with
  | zero => rfl
  | succ n ih => simp [List.replicate_succ, bytePolynomial, ih, ofByte_zero]

theorem bytePolynomial_xor (xs ys : List UInt8) (h : xs.length = ys.length) :
    bytePolynomial (List.zipWith (· ^^^ ·) xs ys) = bytePolynomial xs + bytePolynomial ys := by
  induction xs generalizing ys with
  | nil =>
    rw [List.length_nil] at h
    rw [List.length_eq_zero_iff.mp h.symm]
    simp [bytePolynomial]
  | cons x xs ih =>
    cases ys with
    | nil => simp at h
    | cons y ys =>
      have hlen : xs.length = ys.length := by simpa using h
      simp only [List.zipWith_cons_cons, bytePolynomial, List.length_zipWith, hlen, min_self,
        ofByte_xor, C_add, ih ys hlen]
      ring

theorem bytePolynomial_map_mul (a : UInt8) (xs : List UInt8) :
    bytePolynomial (xs.map (mul a)) = C (ofByte a) * bytePolynomial xs := by
  induction xs with
  | nil => simp [bytePolynomial]
  | cons x xs ih =>
    simp only [List.map_cons, bytePolynomial, List.length_map, ofByte_mul, C_mul, ih]
    ring

theorem ofByte_foldl_horner (x acc : UInt8) (xs : List UInt8) :
    ofByte (xs.foldl (fun acc b => mul acc x ^^^ b) acc) =
      ofByte acc * ofByte x ^ xs.length + (bytePolynomial xs).eval (ofByte x) := by
  induction xs generalizing acc with
  | nil => simp [bytePolynomial]
  | cons b xs ih =>
    simp only [List.foldl_cons, ih, ofByte_xor, ofByte_mul, bytePolynomial, List.length_cons,
      eval_add, eval_mul, eval_C, eval_pow, eval_X]
    ring

theorem eval_bytePolynomial (x : UInt8) (xs : List UInt8) :
    (bytePolynomial xs).eval (ofByte x) = ofByte (polynomialAt x xs) := by
  rw [polynomialAt, ofByte_foldl_horner, ofByte_zero, zero_mul, zero_add]

/-! ### The generator -/

/-- The product of two bytes by shifts, without exponents. -/
def shiftMul (a b : UInt8) : UInt8 :=
  (List.range 8).foldr (fun k acc => timesAlpha acc ^^^ if a.toNat.testBit k then b else 0) 0

theorem ofByte_ite (bit : Bool) (b : UInt8) :
    ofByte (if bit then b else 0) = ofBit bit * ofByte b := by
  cases bit <;> simp [ofBit, ofByte_zero]

theorem shiftMul_eq_mul (a b : UInt8) : shiftMul a b = mul a b := by
  apply ofByte_injective
  rw [ofByte_mul]
  simp only [shiftMul, List.range_succ, List.range_zero, List.nil_append, List.cons_append,
    List.foldr_cons, List.foldr_nil, ofByte_xor, ofByte_timesAlpha, ofByte_ite, ofByte_zero]
  simp only [ofByte.eq_def a, Finset.sum_range_succ, Finset.sum_range_zero]
  ring

/-- The product of a byte string by a linear factor with a given root. -/
def timesRoot (bytes : List UInt8) (root : UInt8) : List UInt8 :=
  List.zipWith (· ^^^ ·) (bytes ++ [0]) (0 :: bytes.map (shiftMul root))

theorem bytePolynomial_timesRoot (bytes : List UInt8) (root : UInt8) :
    bytePolynomial (timesRoot bytes root) = bytePolynomial bytes * (X - C (ofByte root)) := by
  have hlen : (bytes ++ [0]).length = (0 :: bytes.map (mul root)).length := by simp
  have hmul : bytes.map (shiftMul root) = bytes.map (mul root) :=
    List.map_congr_left fun b _ => shiftMul_eq_mul root b
  rw [timesRoot, hmul, bytePolynomial_xor _ _ hlen, bytePolynomial_append]
  simp only [bytePolynomial, bytePolynomial_map_mul, ofByte_zero, C_0, List.length_cons,
    List.length_nil]
  rw [sub_eq_add_neg, ← C_neg, neg_eq]
  ring

theorem bytePolynomial_foldl_timesRoot (roots bytes : List UInt8) :
    bytePolynomial (roots.foldl timesRoot bytes) =
      bytePolynomial bytes * (roots.map fun r => X - C (ofByte r)).prod := by
  induction roots generalizing bytes with
  | nil => simp
  | cons r roots ih =>
    rw [List.foldl_cons, ih, bytePolynomial_timesRoot, List.map_cons, List.prod_cons, mul_assoc]

/-- The coefficients of the generator, the leading one in front. -/
def generatorBytes : List UInt8 := (List.range (parityBytes + 1)).map generatorAt

/-- The roots of the generator as bytes. -/
def generatorRoots : List UInt8 := (List.range parityBytes).map fun i => alphaPow (rootExponent i)

theorem generatorBytes_eq_foldl : generatorBytes = generatorRoots.foldl timesRoot [1] := by
  decide +kernel

/-- The generator: the product of its linear factors. -/
noncomputable def generator : Residue[X] :=
  ∏ i ∈ Finset.range parityBytes, (X - C (alpha ^ rootExponent i))

theorem bytePolynomial_generatorBytes : bytePolynomial generatorBytes = generator := by
  have hone : bytePolynomial [1] = 1 := by simp [bytePolynomial, ofByte_one]
  rw [generatorBytes_eq_foldl, bytePolynomial_foldl_timesRoot, hone, one_mul, generatorRoots,
    List.map_map, generator, Finset.prod_eq_multiset_prod]
  simp only [Function.comp_def, ofByte_alphaPow]
  rfl

theorem eval_generator (i : Nat) (h : i < parityBytes) :
    generator.eval (alpha ^ rootExponent i) = 0 := by
  rw [generator, eval_prod]
  exact Finset.prod_eq_zero (Finset.mem_range.mpr h) (by simp)

/-! ### The register -/

theorem length_toList_parity (parity : Parity) : parity.toList.length = 32 := Vector.length_toList

/-- The register after a block of information bytes. -/
def remainder (data : List UInt8) : Parity :=
  data.foldl ParityRegister.shift (Vector.replicate parityBytes 0)

theorem remainder_append (data : List UInt8) (byte : UInt8) :
    remainder (data ++ [byte]) = ParityRegister.shift (remainder data) byte := by
  simp [remainder]

theorem generatorBytes_eq_cons :
    generatorBytes = 1 :: (List.range parityBytes).map fun i => generatorAt (i + 1) := by
  decide +kernel

theorem getD_eq_getD_toList (parity : Parity) (i : Nat) :
    parity.getD i 0 = parity.toList[i]?.getD 0 := by
  rw [Vector.getD, Array.getD_eq_getD_getElem?, Vector.toList, Array.getElem?_toList]

theorem exists_toList_eq_cons (parity : Parity) :
    ∃ rest, rest.length = 31 ∧ parity.toList = parity.getD 0 0 :: rest := by
  obtain ⟨first, rest, h⟩ : ∃ first rest, parity.toList = first :: rest :=
    List.exists_cons_of_length_pos (by rw [length_toList_parity]; decide)
  have hlen := congrArg List.length h
  rw [length_toList_parity, List.length_cons] at hlen
  have hfirst : parity.getD 0 0 = first := by
    rw [getD_eq_getD_toList, h]
    rfl
  exact ⟨rest, (Nat.succ.inj hlen).symm, by rw [hfirst, h]⟩

theorem toList_shift (parity : Parity) (byte : UInt8) (rest : List UInt8)
    (hlen : rest.length = 31) (h : parity.toList = parity.getD 0 0 :: rest) :
    (ParityRegister.shift parity byte).toList =
      List.zipWith (· ^^^ ·) (rest ++ [0])
        (((List.range parityBytes).map fun i => generatorAt (i + 1)).map
          (mul (byte ^^^ parity.getD 0 0))) := by
  apply List.ext_getElem
  · rw [length_toList_parity]
    simp [hlen, parityBytes]
  · intro i h₁ h₂
    have hi : i < (rest ++ [0]).length := by
      rw [length_toList_parity] at h₁
      rw [List.length_append, hlen]
      exact h₁
    have hnext : parity.getD (i + 1) 0 = (rest ++ [0])[i] := by
      rw [getD_eq_getD_toList, h, List.getElem?_cons_succ]
      by_cases hlast : i < rest.length
      · rw [List.getElem_append_left hlast, List.getElem?_eq_getElem hlast, Option.getD_some]
      · rw [List.getElem?_eq_none (by omega), List.getElem_append_right (by omega)]
        simp
    simp [ParityRegister.shift, hnext]

/-- Taking a byte multiplies by `x` and adds a multiple of the generator. -/
theorem bytePolynomial_shift (data : List UInt8) (parity : Parity) (byte : UInt8) :
    bytePolynomial ((data ++ [byte]) ++ (ParityRegister.shift parity byte).toList) =
      X * bytePolynomial (data ++ parity.toList) +
        C (ofByte (byte ^^^ parity.getD 0 0)) * generator := by
  obtain ⟨rest, hlen, h⟩ := exists_toList_eq_cons parity
  rw [toList_shift parity byte rest hlen h, h, ← bytePolynomial_generatorBytes,
    generatorBytes_eq_cons]
  generalize parity.getD 0 0 = first
  generalize hg : ((List.range parityBytes).map fun i => generatorAt (i + 1)) = tail
  have htail : tail.length = 32 := by simp [← hg, parityBytes]
  simp only [bytePolynomial_append]
  rw [bytePolynomial_xor _ _ (by simp [hlen, htail]), bytePolynomial_append, bytePolynomial_map_mul]
  simp only [bytePolynomial, List.length_zipWith, List.length_append, List.length_map,
    List.length_cons, List.length_nil, hlen, htail, ofByte_zero, ofByte_one, ofByte_xor, C_0, C_1,
    C_add]
  have htwo : (C (ofByte first) + C (ofByte first) : Residue[X]) = 0 := by
    rw [← C_add, add_self, C_0]
  norm_num
  -- The leading coefficients cancel, since every residue is its own negative.
  linear_combination -X ^ 32 * htwo

/-- What a register has taken and its own bytes are a multiple of the generator. -/
theorem generator_dvd_bytePolynomial (data : List UInt8) :
    generator ∣ bytePolynomial (data ++ (remainder data).toList) := by
  induction data using List.reverseRecOn with
  | nil =>
    have hzero : bytePolynomial (remainder []).toList = 0 := by
      simpa [remainder] using bytePolynomial_zeros parityBytes
    rw [List.nil_append, hzero]
    exact dvd_zero _
  | append_singleton data byte ih =>
    rw [remainder_append, bytePolynomial_shift]
    exact dvd_add (ih.mul_left X) (dvd_mul_left generator _)

/-! ### Codewords vanish at the roots -/

theorem feedAll_eq_ok (r : ParityRegister) (data : List UInt8)
    (h : r.count + data.length ≤ informationBytes) :
    r.feedAll data =
      (.ok (), ⟨data.foldl ParityRegister.shift r.parity, r.count + data.length⟩) := by
  induction data generalizing r with
  | nil => rfl
  | cons byte rest ih =>
    rw [List.length_cons] at h
    have hfeed : r.feed byte = .ok ⟨ParityRegister.shift r.parity byte, r.count + 1⟩ :=
      if_neg (by omega)
    simp only [ParityRegister.feedAll, hfeed]
    rw [ih _ (by simp only; omega)]
    simp only [List.foldl_cons, List.length_cons]
    congr 2
    omega

theorem parityOf_eq_ok (data : List UInt8) (h : data.length ≤ informationBytes) :
    parityOf data = .ok (remainder data) := by
  have hfeed := feedAll_eq_ok .empty data (by simpa [ParityRegister.empty] using h)
  rw [parityOf, hfeed]
  rfl

theorem eval_codeword (data : List UInt8) (i : Nat) (h : i < parityBytes) :
    (bytePolynomial (data ++ (remainder data).toList)).eval (alpha ^ rootExponent i) = 0 :=
  eval_eq_zero_of_dvd_of_eval_eq_zero (generator_dvd_bytePolynomial data) (eval_generator i h)

theorem syndromes_codeword (data : List UInt8) :
    syndromes (data ++ (remainder data).toList) = List.replicate parityBytes 0 := by
  rw [syndromes, List.eq_replicate_iff]
  refine ⟨by simp, ?_⟩
  intro s hs
  obtain ⟨i, hi, rfl⟩ := List.mem_map.mp hs
  rw [← ofByte_eq_zero, ← eval_bytePolynomial, ofByte_alphaPow]
  exact eval_codeword data i (List.mem_range.mp hi)

/-- Every block of up to 223 bytes has a parity, and with it vanishes at the 32 roots: as a
polynomial over the field and by the library's own products. -/
theorem parityOf_completes_codeword (data : List UInt8) (h : data.length ≤ 223) :
    ∃ parity : Parity, parityOf data = .ok parity ∧
      (∀ i < 32, (bytePolynomial (data ++ parity.toList)).eval (alpha ^ (11 * (112 + i))) = 0) ∧
      syndromes (data ++ parity.toList) = List.replicate 32 0 := by
  refine ⟨remainder data, parityOf_eq_ok data h, ?_, syndromes_codeword data⟩
  intro i hi
  exact eval_codeword data i hi

theorem parityOf_completes_codeword_full :
    (List.replicate 223 (0xAA : UInt8)).length ≤ 223 ∧
      ∃ parity : Parity, parityOf (List.replicate 223 0xAA) = .ok parity ∧
        (∀ i < 32, (bytePolynomial (List.replicate 223 0xAA ++ parity.toList)).eval
          (alpha ^ (11 * (112 + i))) = 0) ∧
        syndromes (List.replicate 223 0xAA ++ parity.toList) = List.replicate 32 0 :=
  ⟨List.length_replicate.le,
    parityOf_completes_codeword (List.replicate 223 0xAA) List.length_replicate.le⟩

end Downlink
