import Mathlib
import Downlink.Proofs.Telemetry.Extremes

/-!
# The order in which readings are folded in

A bound goes to the lesser, or the greater, of itself and every number that it is offered, and keeps
out what is no number. So the extremes depend neither on the order of the polls nor on how often
each was folded in, they hold numbers only, and in a run they only grow apart.
-/

namespace Downlink

open Comparison

namespace Span

/-! ### A bound in a linear order -/

section
variable {α : Type} [LinearOrder α] {beats : Float32 → Float32 → Prop} [DecidableRel beats]
  {key : Float32 → α}
  (hbeats : ∀ v b, beats v b ↔ v.isNaN = false ∧ b.isNaN = false ∧ key v < key b)

include hbeats

theorem isNaN_winner {bound : Float32} (hbound : bound.isNaN = false) (value : Float32) :
    (winner beats bound value).isNaN = false := by
  unfold winner
  split
  · next hvalue => exact ((hbeats _ _).mp hvalue).1
  · exact hbound

theorem key_winner {bound : Float32} (hbound : bound.isNaN = false) (value : Float32) :
    key (winner beats bound value) =
      if value.isNaN then key bound else min (key bound) (key value) := by
  unfold winner
  cases hvalue : value.isNaN with
  | true =>
    have hout : ¬beats value bound := by
      rw [hbeats, hvalue]
      exact fun h => Bool.noConfusion h.1
    rw [if_neg hout, if_pos rfl]
  | false =>
    have hlt : beats value bound ↔ key value < key bound := by
      rw [hbeats, hvalue, hbound]
      simp only [true_and]
    rw [if_neg Bool.false_ne_true]
    by_cases hbelow : key value < key bound
    · rw [if_pos (hlt.mpr hbelow), min_eq_right hbelow.le]
    · rw [if_neg fun h => hbelow (hlt.mp h), min_eq_left (not_lt.mp hbelow)]

theorem isNaN_foldl_winner (values : List Float32) {bound : Float32}
    (hbound : bound.isNaN = false) : (values.foldl (winner beats) bound).isNaN = false := by
  induction values generalizing bound with
  | nil => exact hbound
  | cons value rest ih => exact ih (isNaN_winner hbeats hbound value)

/-- What is left of a bound is the least of it and the numbers that it was offered. -/
theorem key_foldl_winner (values : List Float32) {bound : Float32} (hbound : bound.isNaN = false) :
    key (values.foldl (winner beats) bound) =
      ((values.filter fun v => !v.isNaN).map key).foldl min (key bound) := by
  induction values generalizing bound with
  | nil => rfl
  | cons value rest ih =>
    rw [List.foldl_cons, ih (isNaN_winner hbeats hbound value), key_winner hbeats hbound]
    cases hvalue : value.isNaN with
    | true =>
      rw [if_pos rfl, List.filter_cons_of_neg (by rw [hvalue]; decide)]
    | false =>
      rw [if_neg Bool.false_ne_true, List.filter_cons_of_pos (by rw [hvalue]; rfl), List.map_cons,
        List.foldl_cons]

theorem key_foldl_winner_of_perm {values others : List Float32} (h : values.Perm others)
    {bound : Float32} (hbound : bound.isNaN = false) :
    key (values.foldl (winner beats) bound) = key (others.foldl (winner beats) bound) := by
  rw [key_foldl_winner hbeats values hbound, key_foldl_winner hbeats others hbound]
  exact ((h.filter _).map key).foldl_eq (key bound)

theorem key_foldl_winner_le (values : List Float32) {bound : Float32}
    (hbound : bound.isNaN = false) : key (values.foldl (winner beats) bound) ≤ key bound := by
  induction values generalizing bound with
  | nil => exact le_rfl
  | cons value rest ih =>
    have hstep : key (winner beats bound value) ≤ key bound := by
      rw [key_winner hbeats hbound]
      split
      · exact le_rfl
      · exact min_le_left _ _
    exact (ih (isNaN_winner hbeats hbound value)).trans hstep

end

/-! ### One kind of entries -/

section
variable {n : Nat}

/-- The bounds are the same numbers; the two zeros are one number. -/
structure Agree (s t : Span n) : Prop where
  least : ∀ i, (s.least.get i == t.least.get i) = true
  greatest : ∀ i, (s.greatest.get i == t.greatest.get i) = true

/-- No least value of `t` is above that of `s`, and no greatest value below. -/
structure Within (s t : Span n) : Prop where
  least : ∀ i, t.least.get i ≤ s.least.get i
  greatest : ∀ i, s.greatest.get i ≤ t.greatest.get i

/-- All bounds are numbers. -/
structure Numeric (s : Span n) : Prop where
  least : ∀ i, (s.least.get i).isNaN = false
  greatest : ∀ i, (s.greatest.get i).isNaN = false

theorem beats_below (v b : Float32) :
    v < b ↔ v.isNaN = false ∧ b.isNaN = false ∧ place v < place b :=
  lt_iff_place v b

/-- From above, a value beats a bound in the order turned round. -/
theorem beats_above (v b : Float32) :
    b < v ↔ v.isNaN = false ∧ b.isNaN = false ∧
      OrderDual.toDual (place v) < OrderDual.toDual (place b) := by
  rw [lt_iff_place, OrderDual.toDual_lt_toDual]
  tauto

theorem numeric_unseen : (unseen n).Numeric where
  least i := by
    have hleast : (unseen n).least.get i = unseenLeast := Vector.getElem_replicate _
    rw [hleast]
    decide +kernel
  greatest i := by
    have hgreatest : (unseen n).greatest.get i = unseenGreatest := Vector.getElem_replicate _
    rw [hgreatest]
    decide +kernel

variable {s : Span n}

theorem Numeric.foldl (hs : s.Numeric) (polls : List (Vector Float32 n)) :
    (polls.foldl fold s).Numeric where
  least i := by
    rw [(get_foldl_fold s polls i).1, lower_eq_winner]
    exact isNaN_foldl_winner beats_below _ (hs.least i)
  greatest i := by
    rw [(get_foldl_fold s polls i).2, raise_eq_winner]
    exact isNaN_foldl_winner beats_above _ (hs.greatest i)

theorem Numeric.within_foldl (hs : s.Numeric) (polls : List (Vector Float32 n)) :
    s.Within (polls.foldl fold s) where
  least i := by
    rw [le_iff_place]
    refine ⟨(hs.foldl polls).least i, hs.least i, ?_⟩
    rw [(get_foldl_fold s polls i).1, lower_eq_winner]
    exact key_foldl_winner_le beats_below _ (hs.least i)
  greatest i := by
    rw [le_iff_place]
    refine ⟨hs.greatest i, (hs.foldl polls).greatest i, ?_⟩
    rw [(get_foldl_fold s polls i).2, raise_eq_winner]
    exact OrderDual.toDual_le_toDual.mp (key_foldl_winner_le beats_above _ (hs.greatest i))

theorem Numeric.agree_of_perm (hs : s.Numeric) {polls others : List (Vector Float32 n)}
    (h : polls.Perm others) : (polls.foldl fold s).Agree (others.foldl fold s) where
  least i := by
    rw [beq_iff_place]
    refine ⟨(hs.foldl polls).least i, (hs.foldl others).least i, ?_⟩
    rw [(get_foldl_fold s polls i).1, (get_foldl_fold s others i).1, lower_eq_winner]
    exact key_foldl_winner_of_perm beats_below (h.map _) (hs.least i)
  greatest i := by
    rw [beq_iff_place]
    refine ⟨(hs.foldl polls).greatest i, (hs.foldl others).greatest i, ?_⟩
    rw [(get_foldl_fold s polls i).2, (get_foldl_fold s others i).2, raise_eq_winner]
    exact OrderDual.toDual_inj.mp
      (key_foldl_winner_of_perm beats_above (h.map _) (hs.greatest i))

theorem fold_of_mem {polls : List (Vector Float32 n)} {values : Vector Float32 n}
    (h : values ∈ polls) : (polls.foldl fold s).fold values = polls.foldl fold s := by
  -- The bounds were chosen among these values, so none of them beats a bound.
  have hseen : ∀ (i : Fin n) (bound : Float32),
      values.get i ∈ bound :: polls.map fun v => v.get i :=
    fun i bound => List.mem_cons_of_mem bound (List.mem_map_of_mem h)
  have hleast : ∀ i : Fin n, lower ((polls.foldl fold s).least.get i) (values.get i) =
      (polls.foldl fold s).least.get i := by
    intro i
    have hbound := not_beats_foldl_winner (fun value bound => value < bound) value_lt_irrefl
      value_lt_trans _ _ _ (hseen i (s.least.get i))
    rw [(get_foldl_fold s polls i).1, lower_eq_winner]
    exact if_neg hbound
  have hgreatest : ∀ i : Fin n, raise ((polls.foldl fold s).greatest.get i) (values.get i) =
      (polls.foldl fold s).greatest.get i := by
    intro i
    have hbound := not_beats_foldl_winner (fun value bound => bound < value) value_lt_irrefl
      (fun hv hw => value_lt_trans hw hv) _ _ _ (hseen i (s.greatest.get i))
    rw [(get_foldl_fold s polls i).2, raise_eq_winner]
    exact if_neg hbound
  generalize polls.foldl fold s = t at hleast hgreatest
  rw [fold, Span.mk.injEq]
  constructor
  · apply Vector.ext
    intro i hi
    rw [Vector.getElem_zipWith]
    exact hleast ⟨i, hi⟩
  · apply Vector.ext
    intro i hi
    rw [Vector.getElem_zipWith]
    exact hgreatest ⟨i, hi⟩

end

end Span

namespace Extremes

/-! ### All kinds of entries -/

/-- A relation that holds between the bounds of every kind of entries. -/
structure Each (relation : ∀ {n : Nat}, Span n → Span n → Prop) (e f : Extremes) : Prop where
  voltage : relation e.voltage f.voltage
  current : relation e.current f.current
  sensor : relation e.sensor f.sensor
  other : relation e.other f.other

/-- The bounds of all kinds are the same numbers. -/
def Agree : Extremes → Extremes → Prop := Each Span.Agree

/-- Of no kind has a least value risen or a greatest one fallen. -/
def Within : Extremes → Extremes → Prop := Each Span.Within

/-- All bounds are numbers. -/
def Numeric (e : Extremes) : Prop := Each (fun s _ => s.Numeric) e e

theorem foldl_fold_eq (e : Extremes) (polls : List Readings) :
    polls.foldl fold e =
      { voltage := (polls.map Readings.voltage).foldl Span.fold e.voltage
        current := (polls.map Readings.current).foldl Span.fold e.current
        sensor :=
          ((polls.filter Readings.payloadValid).map Readings.sensor).foldl Span.fold e.sensor
        other := (polls.map Readings.other).foldl Span.fold e.other } := by
  have hvoltage := kind_foldl_fold Extremes.voltage Readings.voltage (fun _ _ => rfl) e polls
  have hcurrent := kind_foldl_fold Extremes.current Readings.current (fun _ _ => rfl) e polls
  have hother := kind_foldl_fold Extremes.other Readings.other (fun _ _ => rfl) e polls
  rw [← hvoltage, ← hcurrent, ← sensor_foldl_fold, ← hother]

theorem numeric_unseen : Numeric unseen :=
  ⟨Span.numeric_unseen, Span.numeric_unseen, Span.numeric_unseen, Span.numeric_unseen⟩

section
variable {e : Extremes} (he : e.Numeric)

include he

theorem Numeric.foldl (polls : List Readings) : (polls.foldl fold e).Numeric := by
  rw [foldl_fold_eq]
  exact ⟨he.voltage.foldl _, he.current.foldl _, he.sensor.foldl _, he.other.foldl _⟩

theorem Numeric.within_foldl (polls : List Readings) : e.Within (polls.foldl fold e) := by
  rw [foldl_fold_eq]
  exact ⟨he.voltage.within_foldl _, he.current.within_foldl _, he.sensor.within_foldl _,
    he.other.within_foldl _⟩

theorem Numeric.agree_of_perm {polls others : List Readings} (h : polls.Perm others) :
    (polls.foldl fold e).Agree (others.foldl fold e) := by
  rw [foldl_fold_eq, foldl_fold_eq]
  exact ⟨he.voltage.agree_of_perm (h.map _), he.current.agree_of_perm (h.map _),
    he.sensor.agree_of_perm ((h.filter _).map _), he.other.agree_of_perm (h.map _)⟩

end

theorem fold_of_mem {e : Extremes} {polls : List Readings} {r : Readings} (h : r ∈ polls) :
    (polls.foldl fold e).fold r = polls.foldl fold e := by
  rw [foldl_fold_eq, fold, Span.fold_of_mem (List.mem_map_of_mem h),
    Span.fold_of_mem (List.mem_map_of_mem h), Span.fold_of_mem (List.mem_map_of_mem h)]
  cases hvalid : r.payloadValid with
  | true =>
    rw [if_pos rfl, Span.fold_of_mem (List.mem_map_of_mem (List.mem_filter.mpr ⟨h, hvalid⟩))]
  | false => rw [if_neg Bool.false_ne_true]

/-- After any polls the extremes are numbers. Two more polls may come in either order, and so may
all polls; one that was folded in before changes nothing. However the run goes on, no least value
rises and no greatest value falls. -/
theorem folds_in_any_order (polls : List Readings) :
    let e := polls.foldl fold unseen
    e.Numeric ∧
    (∀ r₁ r₂, ((e.fold r₁).fold r₂).Agree ((e.fold r₂).fold r₁)) ∧
    (∀ others, polls.Perm others → e.Agree (others.foldl fold unseen)) ∧
    (∀ r ∈ polls, e.fold r = e) ∧
    ∀ more : List Readings, e.Within (more.foldl fold e) := by
  intro e
  have he : e.Numeric := numeric_unseen.foldl polls
  refine ⟨he, fun r₁ r₂ => ?_, fun others h => numeric_unseen.agree_of_perm h,
    fun r h => fold_of_mem h, fun more => he.within_foldl more⟩
  exact he.agree_of_perm (List.Perm.swap r₂ r₁ [])

/-- Among the polls are one without a number, one with negative zeros and an infinite one. -/
theorem folds_in_any_order_no_number :
    let volts (value : Float32) : Readings :=
      { Readings.zero with voltage := Vector.replicate powerChannels value }
    let polls := [volts (0.0 / 0.0), volts (-0.0), volts (1.0 / 0.0)]
    let e := polls.foldl fold unseen
    let panel : Fin powerChannels := ⟨0, by decide⟩
    volts (-0.0) ∈ polls ∧ e.fold (volts (-0.0)) = e ∧
      polls.Perm [volts (1.0 / 0.0), volts (0.0 / 0.0), volts (-0.0)] ∧
      e.Agree ([volts (1.0 / 0.0), volts (0.0 / 0.0), volts (-0.0)].foldl fold unseen) ∧
      (e.voltage.least.get panel == 0.0) = true ∧
      e.voltage.greatest.get panel = 1.0 / 0.0 := by
  intro volts polls e panel
  obtain ⟨-, -, hperm, hmem, -⟩ := folds_in_any_order polls
  have hseen : volts (-0.0) ∈ polls := List.mem_cons_of_mem _ List.mem_cons_self
  have hturned : polls.Perm [volts (1.0 / 0.0), volts (0.0 / 0.0), volts (-0.0)] := by
    show ([volts (0.0 / 0.0), volts (-0.0)] ++ [volts (1.0 / 0.0)]).Perm _
    exact List.perm_append_comm
  exact ⟨hseen, hmem _ hseen, hturned, hperm _ hturned, by decide +kernel, by decide +kernel⟩

end Extremes

end Downlink
