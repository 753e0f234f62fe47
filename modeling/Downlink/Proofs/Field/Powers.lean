import Mathlib
import Downlink.Field

/-!
# Powers of alpha

Multiplying by `alpha` over and over runs once through all nonzero bytes and is back at 1 after 255
steps. So the tables of powers and of exponents undo each other, and exponents count modulo 255.
-/

namespace Downlink.Field

/-! ### Reduced exponents -/

theorem reduceExponent_eq_mod (e : Nat) : reduceExponent e = e % 255 := by
  induction e using reduceExponent.induct with
  | case1 e h rest ih =>
    rw [reduceExponent, if_pos h]
    show reduceExponent (rest / 256 + rest % 256) = e % 255
    have hrest : rest + 255 = e := Nat.sub_add_cancel h
    rw [ih]
    omega
  | case2 e h =>
    rw [reduceExponent, if_neg h]
    exact (Nat.mod_eq_of_lt (Nat.lt_of_not_le h)).symm

theorem toNat_ofNat_mod (n : Nat) : (UInt8.ofNat (n % 255)).toNat = n % 255 := by
  rw [UInt8.toNat_ofNat']
  omega

/-! ### The table of powers -/

theorem getElem?_powersFrom (n : Nat) (x : UInt8) (i : Nat) (h : i < n) :
    (powersFrom n x)[i]? = some (timesAlpha^[i] x) := by
  induction n generalizing x i with
  | zero => omega
  | succ n ih =>
    cases i with
    | zero => rfl
    | succ i => exact ih (timesAlpha x) i (by omega)

theorem get_table (l : List UInt8) (h : l.toArray.size = 256) (e : UInt8) :
    some ((Vector.mk l.toArray h).get e.toFin) = l[e.toNat]? := by
  have hlt : e.toNat < l.length := by
    have hlen : l.length = 256 := h
    rw [hlen]
    exact e.toNat_lt
  rw [List.getElem?_eq_getElem hlt]
  rfl

theorem antilog_of_lt (e : UInt8) (h : e.toNat < 255) : antilog e = timesAlpha^[e.toNat] 1 := by
  have hget : some (antilog e) = (powersFrom order 1 ++ [0])[e.toNat]? := get_table _ _ e
  have hlen : e.toNat < (powersFrom order 1).length := by simpa [order] using h
  rw [List.getElem?_append_left hlen, getElem?_powersFrom order 1 _ h] at hget
  exact Option.some.inj hget

/-! ### The period -/

theorem iterate_timesAlpha_dvd :
    ∀ d ∈ Nat.divisors 255, timesAlpha^[d] 1 = 1 ↔ d = 255 := by
  decide +kernel

theorem minimalPeriod_timesAlpha : Function.minimalPeriod timesAlpha 1 = 255 := by
  have hperiodic : Function.IsPeriodicPt timesAlpha 255 1 :=
    (iterate_timesAlpha_dvd 255 (by decide)).mpr rfl
  have hmem : Function.minimalPeriod timesAlpha 1 ∈ Nat.divisors 255 :=
    Nat.mem_divisors.mpr ⟨hperiodic.minimalPeriod_dvd, by decide⟩
  exact (iterate_timesAlpha_dvd _ hmem).mp Function.iterate_minimalPeriod

theorem alphaPow_eq_iterate (n : Nat) : alphaPow n = timesAlpha^[n] 1 := by
  have hlt : (UInt8.ofNat (n % 255)).toNat < 255 := by
    rw [toNat_ofNat_mod]
    exact Nat.mod_lt n (by decide)
  have hmod := Function.iterate_mod_minimalPeriod_eq (f := timesAlpha) (x := 1) (n := n)
  rw [minimalPeriod_timesAlpha] at hmod
  rw [alphaPow, reduceExponent_eq_mod, antilog_of_lt _ hlt, toNat_ofNat_mod, hmod]

theorem alphaPow_zero : alphaPow 0 = 1 := alphaPow_eq_iterate 0

theorem alphaPow_succ (n : Nat) : alphaPow (n + 1) = timesAlpha (alphaPow n) := by
  rw [alphaPow_eq_iterate, alphaPow_eq_iterate, Function.iterate_succ_apply']

theorem alphaPow_mod (n : Nat) : alphaPow (n % 255) = alphaPow n := by
  simp only [alphaPow, reduceExponent_eq_mod, Nat.mod_mod]

theorem alphaPow_inj {m n : Nat} : alphaPow m = alphaPow n ↔ m % 255 = n % 255 := by
  have hm : m % 255 < Function.minimalPeriod timesAlpha 1 := by
    rw [minimalPeriod_timesAlpha]
    exact Nat.mod_lt m (by decide)
  have hn : n % 255 < Function.minimalPeriod timesAlpha 1 := by
    rw [minimalPeriod_timesAlpha]
    exact Nat.mod_lt n (by decide)
  rw [← alphaPow_mod m, ← alphaPow_mod n, alphaPow_eq_iterate, alphaPow_eq_iterate]
  exact Function.iterate_eq_iterate_iff_of_lt_minimalPeriod hm hn

/-! ### Every nonzero byte is a power -/

theorem timesAlpha_ne_zero (x : UInt8) (h : x ≠ 0) : timesAlpha x ≠ 0 := by
  have hall : ∀ n < 256, timesAlpha (UInt8.ofNat n) = 0 → UInt8.ofNat n = 0 := by decide +kernel
  have hx := hall x.toNat x.toNat_lt
  rw [UInt8.ofNat_toNat] at hx
  exact fun hzero => h (hx hzero)

theorem alphaPow_ne_zero (n : Nat) : alphaPow n ≠ 0 := by
  induction n with
  | zero => rw [alphaPow_zero]; decide
  | succ n ih => rw [alphaPow_succ]; exact timesAlpha_ne_zero _ ih

theorem exists_alphaPow_eq (x : UInt8) (h : x ≠ 0) : ∃ e < 255, alphaPow e = x := by
  let powers : Finset Nat := (Finset.range 255).image fun e => (alphaPow e).toNat
  have hinj : Set.InjOn (fun e => (alphaPow e).toNat) (Finset.range 255) := by
    intro a ha b hb hab
    have hmod := alphaPow_inj.mp (UInt8.toNat_inj.mp hab)
    rw [Nat.mod_eq_of_lt (Finset.mem_range.mp ha),
      Nat.mod_eq_of_lt (Finset.mem_range.mp hb)] at hmod
    exact hmod
  have hsub : powers ⊆ Finset.Icc 1 255 := by
    intro n hn
    obtain ⟨e, -, rfl⟩ := Finset.mem_image.mp hn
    have hlt := (alphaPow e).toNat_lt
    have hne : (alphaPow e).toNat ≠ 0 := fun hz => alphaPow_ne_zero e (UInt8.toNat_inj.mp hz)
    exact Finset.mem_Icc.mpr ⟨by omega, by omega⟩
  have hcard : (Finset.Icc 1 255).card ≤ powers.card := by
    rw [Finset.card_image_of_injOn hinj, Finset.card_range, Nat.card_Icc]
  -- The 255 powers are different, so they fill the 255 nonzero bytes.
  have hall := Finset.eq_of_subset_of_card_le hsub hcard
  have hx : x.toNat ∈ powers := by
    have hlt := x.toNat_lt
    have hne : x.toNat ≠ 0 := fun hz => h (UInt8.toNat_inj.mp hz)
    rw [hall]
    exact Finset.mem_Icc.mpr ⟨by omega, by omega⟩
  obtain ⟨e, he, hex⟩ := Finset.mem_image.mp hx
  exact ⟨e, Finset.mem_range.mp he, UInt8.toNat_inj.mp hex⟩

/-! ### Exponents of bytes -/

theorem log_eq_elim (x : UInt8) :
    log x = ((powersFrom order 1 ++ [0]).findIdx? (· == x)).elim logZero UInt8.ofNat := by
  have hlist : antilogTable.toList = powersFrom order 1 ++ [0] := by
    simp only [antilogTable, Vector.toList_mk]
  have hx : UInt8.ofNat x.toFin.val = x := UInt8.ofNat_toNat
  simp only [log, logTable, Vector.get_eq_getElem, Vector.getElem_ofFn, hlist, hx]
  cases (powersFrom order 1 ++ [0]).findIdx? (· == x) with
  | none => rfl
  | some e => rfl

theorem log_alphaPow (n : Nat) : log (alphaPow n) = UInt8.ofNat (n % 255) := by
  have hlt : n % 255 < 255 := Nat.mod_lt n (by decide)
  have hget : ∀ i < 255, (powersFrom order 1 ++ [0])[i]? = some (alphaPow i) := by
    intro i hi
    have hlen : i < (powersFrom order 1).length := by simpa [order] using hi
    rw [List.getElem?_append_left hlen, getElem?_powersFrom order 1 i hi, alphaPow_eq_iterate]
  have hfind : (powersFrom order 1 ++ [0]).findIdx? (· == alphaPow n) = some (n % 255) := by
    rw [List.findIdx?_eq_some_iff_getElem]
    refine ⟨(List.getElem?_eq_some_iff.mp (hget _ hlt)).1, ?_, ?_⟩
    · rw [(List.getElem?_eq_some_iff.mp (hget _ hlt)).2, alphaPow_mod]
      exact beq_self_eq_true _
    · intro j hj heq
      rw [(List.getElem?_eq_some_iff.mp (hget j (by omega))).2, beq_iff_eq, alphaPow_inj] at heq
      omega
  rw [log_eq_elim, hfind, Option.elim_some]

/-! ### Products -/

theorem mul_zero_left (x : UInt8) : mul 0 x = 0 := by simp [mul]

theorem mul_zero_right (x : UInt8) : mul x 0 = 0 := by simp [mul]

theorem mul_alphaPow (m n : Nat) : mul (alphaPow m) (alphaPow n) = alphaPow (m + n) := by
  have hne : ¬(alphaPow m = 0 ∨ alphaPow n = 0) := by
    rintro (h | h)
    · exact alphaPow_ne_zero m h
    · exact alphaPow_ne_zero n h
  rw [mul, if_neg hne, log_alphaPow, log_alphaPow, toNat_ofNat_mod, toNat_ofNat_mod]
  show alphaPow (m % 255 + n % 255) = alphaPow (m + n)
  rw [alphaPow_inj, ← Nat.add_mod]

end Downlink.Field
