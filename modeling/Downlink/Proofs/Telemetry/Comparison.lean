import Mathlib

/-!
# Comparing values

A value that is a number has a place on a line: first its sign and kind, then exponent and mantissa.
Comparisons of numbers are comparisons of their places, so numbers are in a linear order, but for
the two zeros, which share a place. What is no number compares with nothing.
-/

namespace Downlink.Comparison

open Float.Model (UnpackedFloat)

/-! ### Unpacked values -/

/-- Where a number stands. A negative number with a greater exponent or mantissa stands lower. -/
def placeOf : UnpackedFloat → ℤ ×ₗ ℤ ×ₗ ℤ
  | .infinity .negative => toLex (-2, toLex (0, 0))
  | .finite .negative mantissa exponent _ => toLex (-1, toLex (-exponent, -mantissa))
  | .zero _ => toLex (0, toLex (0, 0))
  | .finite .positive mantissa exponent _ => toLex (1, toLex (exponent, mantissa))
  | .infinity .positive => toLex (2, toLex (0, 0))
  | .notANumber => toLex (0, toLex (0, 0))

theorem compare_places (x y : ℤ ×ₗ ℤ ×ₗ ℤ) :
    compare x y =
      (compare (ofLex x).1 (ofLex y).1).then
        ((compare (ofLex (ofLex x).2).1 (ofLex (ofLex y).2).1).then
          (compare (ofLex (ofLex x).2).2 (ofLex (ofLex y).2).2)) := by
  simp only [Prod.Lex.compare_def, compareLex, compareOn]

theorem compare_neg (x y : ℤ) : compare (-x) (-y) = (compare x y).swap := by
  have hneg : StrictAnti fun n : ℤ => -n := fun _ _ h => Int.neg_lt_neg h
  rw [← cmp_eq_compare, ← cmp_eq_compare, cmp_swap]
  exact hneg.cmp_map_eq x y

theorem compare_natCast (m n : Nat) : compare (m : ℤ) (n : ℤ) = compare m n := by
  have hcast : StrictMono fun n : Nat => (n : ℤ) := fun _ _ h => Int.ofNat_lt.mpr h
  rw [← cmp_eq_compare, ← cmp_eq_compare]
  exact hcast.cmp_map_eq m n

theorem compare_finite (sign : UnpackedFloat.Sign) (m n : Nat) (e f : ℤ) (hm : 0 < m)
    (hn : 0 < n) :
    (UnpackedFloat.finite sign m e hm).compare (.finite sign n f hn) =
      some (compare (placeOf (.finite sign m e hm)) (placeOf (.finite sign n f hn))) := by
  rw [compare_places]
  cases sign with
  | positive =>
    simp only [placeOf, ofLex_toLex, compare_natCast]
    rfl
  | negative =>
    simp only [placeOf, ofLex_toLex, compare_neg, compare_natCast, ← Ordering.swap_then]
    rfl

/-- Of two numbers the places decide. -/
theorem compare_eq_places (a b : UnpackedFloat) (ha : a.isNaN = false) (hb : b.isNaN = false) :
    a.compare b = some (compare (placeOf a) (placeOf b)) := by
  rw [compare_places]
  -- But for two finite numbers of one sign, kinds and signs alone decide.
  cases a with
  | notANumber => exact absurd ha Bool.noConfusion
  | infinity s =>
    cases b with
    | notANumber => exact absurd hb Bool.noConfusion
    | infinity t => cases s <;> cases t <;> rfl
    | zero t => cases s <;> rfl
    | finite t n f hn => cases s <;> cases t <;> rfl
  | zero s =>
    cases b with
    | notANumber => exact absurd hb Bool.noConfusion
    | infinity t => cases t <;> rfl
    | zero t => rfl
    | finite t n f hn => cases t <;> rfl
  | finite s m e hm =>
    cases b with
    | notANumber => exact absurd hb Bool.noConfusion
    | infinity t => cases s <;> cases t <;> rfl
    | zero t => cases s <;> rfl
    | finite t n f hn =>
      rw [← compare_places]
      cases s with
      | negative =>
        cases t with
        | negative => exact compare_finite _ m n e f hm hn
        | positive => rfl
      | positive =>
        cases t with
        | negative => rfl
        | positive => exact compare_finite _ m n e f hm hn

theorem compare_eq_none (a b : UnpackedFloat) (h : a.isNaN = true ∨ b.isNaN = true) :
    a.compare b = none := by
  cases a with
  | notANumber => rfl
  | infinity s | zero s | finite s m e hm =>
    cases b with
    | notANumber => rfl
    | infinity t | zero t | finite t n f hn =>
      rcases h with h | h
      · exact absurd h Bool.noConfusion
      · exact absurd h Bool.noConfusion

/-! ### Values -/

/-- Where a value stands. What is no number stands where the zeros do. -/
def place (x : Float32) : ℤ ×ₗ ℤ ×ₗ ℤ := placeOf x.toModel.unpack

/-- Two values compare as `o` says exactly if they are numbers whose places do. -/
theorem compare_eq_some_iff (x y : Float32) (o : Ordering) :
    x.toModel.unpack.compare y.toModel.unpack = some o ↔
      x.isNaN = false ∧ y.isNaN = false ∧ compare (place x) (place y) = o := by
  cases hx : x.isNaN with
  | true =>
    rw [compare_eq_none _ _ (Or.inl hx)]
    simp
  | false =>
    cases hy : y.isNaN with
    | true =>
      rw [compare_eq_none _ _ (Or.inr hy)]
      simp
    | false =>
      rw [compare_eq_places _ _ hx hy]
      simp [place]

theorem lt_iff_place (x y : Float32) :
    x < y ↔ x.isNaN = false ∧ y.isNaN = false ∧ place x < place y := by
  have hcompare : x < y ↔ x.toModel.unpack.compare y.toModel.unpack = some .lt := by
    show decide (x.toModel < y.toModel) = true ↔ _
    rw [decide_eq_true_iff]
    show (x.toModel.unpack.compare y.toModel.unpack == some .lt) = true ↔ _
    exact beq_iff_eq
  rw [hcompare, compare_eq_some_iff, compare_lt_iff_lt]

theorem beq_iff_place (x y : Float32) :
    (x == y) = true ↔ x.isNaN = false ∧ y.isNaN = false ∧ place x = place y := by
  have hcompare : (x == y) = true ↔ x.toModel.unpack.compare y.toModel.unpack = some .eq := by
    show (x.toModel.unpack.compare y.toModel.unpack == some .eq) = true ↔ _
    exact beq_iff_eq
  rw [hcompare, compare_eq_some_iff, compare_eq_iff_eq]

theorem le_iff_place (x y : Float32) :
    x ≤ y ↔ x.isNaN = false ∧ y.isNaN = false ∧ place x ≤ place y := by
  have hcompare : x ≤ y ↔ x < y ∨ (x == y) = true := by
    show decide (x.toModel ≤ y.toModel) = true ↔
      decide (x.toModel < y.toModel) = true ∨ (x.toModel == y.toModel) = true
    rw [decide_eq_true_iff, decide_eq_true_iff]
    show (x.toModel.unpack.compare y.toModel.unpack).any Ordering.isLE = true ↔
      (x.toModel.unpack.compare y.toModel.unpack == some .lt) = true ∨
        (x.toModel.unpack.compare y.toModel.unpack == some .eq) = true
    rcases x.toModel.unpack.compare y.toModel.unpack with _ | (_ | _ | _) <;> decide
  rw [hcompare, lt_iff_place, beq_iff_place, le_iff_lt_or_eq]
  tauto

theorem value_lt_irrefl (x : Float32) : ¬x < x := by
  rw [lt_iff_place]
  exact fun h => lt_irrefl _ h.2.2

theorem value_lt_trans {x y z : Float32} (hxy : x < y) (hyz : y < z) : x < z := by
  rw [lt_iff_place] at hxy hyz ⊢
  exact ⟨hxy.1, hyz.2.1, hxy.2.2.trans hyz.2.2⟩

theorem value_lt_of_le_of_lt {x y z : Float32} (hxy : x ≤ y) (hyz : y < z) : x < z := by
  rw [le_iff_place] at hxy
  rw [lt_iff_place] at hyz ⊢
  exact ⟨hxy.1, hyz.2.1, hxy.2.2.trans_lt hyz.2.2⟩

theorem value_lt_of_lt_of_le {x y z : Float32} (hxy : x < y) (hyz : y ≤ z) : x < z := by
  rw [le_iff_place] at hyz
  rw [lt_iff_place] at hxy ⊢
  exact ⟨hxy.1, hyz.2.1, hxy.2.2.trans_le hyz.2.2⟩

/-- Numbers are in a linear order. -/
theorem value_le_of_not_lt {x y : Float32} (hx : x.isNaN = false) (hy : y.isNaN = false)
    (h : ¬y < x) : x ≤ y := by
  rw [lt_iff_place] at h
  rw [le_iff_place]
  refine ⟨hx, hy, ?_⟩
  by_contra hplace
  exact h ⟨hy, hx, lt_of_not_ge hplace⟩

theorem bne_of_lt {x y : Float32} (h : x < y) : (x != y) = true ∧ (y != x) = true := by
  obtain ⟨-, -, hplace⟩ := (lt_iff_place x y).mp h
  rw [bne, bne, Bool.not_eq_true', Bool.not_eq_true', ← Bool.not_eq_true, ← Bool.not_eq_true,
    beq_iff_place, beq_iff_place]
  exact ⟨fun heq => hplace.ne heq.2.2, fun heq => hplace.ne' heq.2.2⟩

theorem isNaN_of_isFinite {x : Float32} (h : x.isFinite = true) : x.isNaN = false := by
  have hunpack : ∀ a : UnpackedFloat, a.isFinite = true → a.isNaN = false := by
    intro a ha
    cases a with
    | notANumber => exact absurd ha Bool.noConfusion
    | infinity s | zero s | finite s m e hm => rfl
  exact hunpack _ h

end Downlink.Comparison
