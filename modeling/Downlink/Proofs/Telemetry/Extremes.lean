import Mathlib
import Downlink.Telemetry.Extremes
import Downlink.Proofs.Telemetry.Comparison

/-!
# What is reported as an extreme

The bounds that stand for nothing seen are numbers like any others. An entry whose values are all
beyond them stays at its bound, or, on the payload board, is taken for one that was never seen.
As soon as one value is within the bound, the extreme that is reported is that of the values.
-/

namespace Downlink

open Comparison

/-- Whether every value of a poll is a finite number. -/
def Readings.isFinite (r : Readings) : Bool :=
  r.voltage.all Float32.isFinite && r.current.all Float32.isFinite &&
    r.sensor.all Float32.isFinite && r.other.all Float32.isFinite

/-- What is reported as the least of some values: it is the least of them if one is below the bound
that stands for nothing seen, and otherwise something else stands in. -/
structure ReportsLeast (reported standIn : Float32) (values : List Float32) : Prop where
  seen : (∃ v ∈ values, v < Span.unseenLeast) → IsLeast {v | v ∈ values} reported
  unseen : (∀ v ∈ values, ¬v < Span.unseenLeast) → reported = standIn

/-- What is reported as the greatest of some values, in the same way. -/
structure ReportsGreatest (reported standIn : Float32) (values : List Float32) : Prop where
  seen : (∃ v ∈ values, Span.unseenGreatest < v) → IsGreatest {v | v ∈ values} reported
  unseen : (∀ v ∈ values, ¬Span.unseenGreatest < v) → reported = standIn

namespace Span

/-! ### A bound that gives way -/

section
variable (beats : Float32 → Float32 → Prop) [DecidableRel beats]

/-- What is left of a bound and a value that challenges it: the value, if it beats the bound. -/
def winner (bound value : Float32) : Float32 := if beats value bound then value else bound

theorem foldl_winner_mem (values : List Float32) (bound : Float32) :
    values.foldl (winner beats) bound ∈ bound :: values := by
  induction values using List.reverseRecOn with
  | nil => exact List.mem_cons_self
  | append_singleton rest value ih =>
    rw [List.foldl_append, List.foldl_cons, List.foldl_nil, ← List.cons_append, List.mem_append]
    unfold winner
    split
    · exact Or.inr (List.mem_singleton_self value)
    · exact Or.inl ih

theorem foldl_winner_eq_self (values : List Float32) (bound : Float32)
    (h : ∀ v ∈ values, ¬beats v bound) : values.foldl (winner beats) bound = bound := by
  induction values with
  | nil => rfl
  | cons value rest ih =>
    obtain ⟨hvalue, hrest⟩ := List.forall_mem_cons.mp h
    rw [List.foldl_cons, winner, if_neg hvalue, ih hrest]

theorem not_beats_foldl_winner (hirrefl : ∀ v, ¬beats v v)
    (htrans : ∀ {u v w}, beats u v → beats v w → beats u w) (values : List Float32)
    (bound : Float32) : ∀ v ∈ bound :: values, ¬beats v (values.foldl (winner beats) bound) := by
  induction values using List.reverseRecOn with
  | nil =>
    intro v hv
    rw [List.mem_singleton.mp hv]
    exact hirrefl bound
  | append_singleton rest value ih =>
    rw [List.foldl_append, List.foldl_cons, List.foldl_nil, ← List.cons_append]
    generalize rest.foldl (winner beats) bound = kept at ih
    intro v hv
    unfold winner
    by_cases hbeats : beats value kept
    · rw [if_pos hbeats]
      -- What beats the new bound would have beaten the old one.
      rcases List.mem_append.mp hv with hseen | hlast
      · exact fun hvalue => ih v hseen (htrans hvalue hbeats)
      · rw [List.mem_singleton.mp hlast]
        exact hirrefl value
    · rw [if_neg hbeats]
      rcases List.mem_append.mp hv with hseen | hlast
      · exact ih v hseen
      · rwa [List.mem_singleton.mp hlast]

/-- A bound that some value beats gives way to a value that none of them beats. -/
theorem foldl_winner_unbeaten (hirrefl : ∀ v, ¬beats v v)
    (htrans : ∀ {u v w}, beats u v → beats v w → beats u w) (values : List Float32)
    (bound : Float32) (h : ∃ v ∈ values, beats v bound) :
    values.foldl (winner beats) bound ∈ values ∧
      ∀ v ∈ values, ¬beats v (values.foldl (winner beats) bound) := by
  have hunbeaten : ∀ v ∈ values, ¬beats v (values.foldl (winner beats) bound) := fun v hv =>
    not_beats_foldl_winner beats hirrefl htrans values bound v (List.mem_cons_of_mem bound hv)
  refine ⟨?_, hunbeaten⟩
  rcases List.mem_cons.mp (foldl_winner_mem beats values bound) with hkept | hmem
  · obtain ⟨v, hv, hbeats⟩ := h
    have hbound := hunbeaten v hv
    rw [hkept] at hbound
    exact absurd hbeats hbound
  · exact hmem

end

theorem lower_eq_winner : lower = winner fun value bound => value < bound := rfl

theorem raise_eq_winner : raise = winner fun value bound => bound < value := rfl

end Span

/-! ### One entry -/

section
variable {values : List Float32}

theorem reportsLeast_foldl (hnumber : ∀ v ∈ values, v.isNaN = false) :
    ReportsLeast (values.foldl Span.lower Span.unseenLeast) Span.unseenLeast values := by
  rw [Span.lower_eq_winner]
  refine ⟨fun hseen => ?_, Span.foldl_winner_eq_self (fun value bound => value < bound) values _⟩
  obtain ⟨hmem, hleast⟩ := Span.foldl_winner_unbeaten (fun value bound => value < bound)
    value_lt_irrefl value_lt_trans values _ hseen
  exact ⟨hmem, fun v hv => value_le_of_not_lt (hnumber _ hmem) (hnumber v hv) (hleast v hv)⟩

theorem reportsGreatest_foldl (hnumber : ∀ v ∈ values, v.isNaN = false) :
    ReportsGreatest (values.foldl Span.raise Span.unseenGreatest) Span.unseenGreatest values := by
  have htrans : ∀ {u v w : Float32}, v < u → w < v → w < u := fun hv hw => value_lt_trans hw hv
  rw [Span.raise_eq_winner]
  refine ⟨fun hseen => ?_, Span.foldl_winner_eq_self (fun value bound => bound < value) values _⟩
  obtain ⟨hmem, hgreatest⟩ := Span.foldl_winner_unbeaten (fun value bound => bound < value)
    value_lt_irrefl htrans values _ hseen
  exact ⟨hmem, fun v hv => value_le_of_not_lt (hnumber v hv) (hnumber _ hmem) (hgreatest v hv)⟩

/-- A bound that differs from the one for nothing seen is reported itself. -/
theorem ReportsLeast.stoodIn {bound : Float32} (h : ReportsLeast bound Span.unseenLeast values)
    (present : Float32) :
    ReportsLeast (if bound != Span.unseenLeast then bound else present) present values := by
  constructor
  · rintro ⟨v, hv, hlow⟩
    have hleast := h.seen ⟨v, hv, hlow⟩
    have hbound : bound < Span.unseenLeast := value_lt_of_le_of_lt (hleast.2 hv) hlow
    rw [if_pos (bne_of_lt hbound).1]
    exact hleast
  · intro hnone
    have hbound := h.unseen hnone
    have hsame : (Span.unseenLeast != Span.unseenLeast) = false := by decide +kernel
    rw [hbound, hsame]
    rfl

theorem ReportsGreatest.stoodIn {bound : Float32}
    (h : ReportsGreatest bound Span.unseenGreatest values) (present : Float32) :
    ReportsGreatest (if bound != Span.unseenGreatest then bound else present) present values := by
  constructor
  · rintro ⟨v, hv, hhigh⟩
    have hgreatest := h.seen ⟨v, hv, hhigh⟩
    have hbound : Span.unseenGreatest < bound := value_lt_of_lt_of_le hhigh (hgreatest.2 hv)
    rw [if_pos (bne_of_lt hbound).2]
    exact hgreatest
  · intro hnone
    have hbound := h.unseen hnone
    have hsame : (Span.unseenGreatest != Span.unseenGreatest) = false := by decide +kernel
    rw [hbound, hsame]
    rfl

end

/-! ### All entries -/

theorem Span.get_foldl_fold {n : Nat} (s : Span n) (polls : List (Vector Float32 n)) (i : Fin n) :
    (polls.foldl fold s).least.get i = (polls.map fun v => v.get i).foldl lower (s.least.get i) ∧
      (polls.foldl fold s).greatest.get i =
        (polls.map fun v => v.get i).foldl raise (s.greatest.get i) := by
  induction polls generalizing s with
  | nil => exact ⟨rfl, rfl⟩
  | cons values rest ih =>
    have hleast : (s.fold values).least.get i = lower (s.least.get i) (values.get i) :=
      Vector.getElem_zipWith _
    have hgreatest : (s.fold values).greatest.get i = raise (s.greatest.get i) (values.get i) :=
      Vector.getElem_zipWith _
    rw [List.foldl_cons, List.map_cons, List.foldl_cons, List.foldl_cons, ← hleast, ← hgreatest]
    exact ih (s.fold values)

/-- The extremes of one kind of entries, from the bounds for nothing seen. -/
theorem Span.reports_foldl {n : Nat} (polls : List (Vector Float32 n))
    (hnumber : ∀ values ∈ polls, ∀ i, (values.get i).isNaN = false) (i : Fin n) :
    let s := polls.foldl fold (unseen n)
    ReportsLeast (s.least.get i) unseenLeast (polls.map fun v => v.get i) ∧
      ReportsGreatest (s.greatest.get i) unseenGreatest (polls.map fun v => v.get i) := by
  have hvalues : ∀ v ∈ polls.map fun v => v.get i, v.isNaN = false := by
    intro v hv
    obtain ⟨values, hmem, rfl⟩ := List.mem_map.mp hv
    exact hnumber values hmem i
  have hleast : (unseen n).least.get i = unseenLeast := Vector.getElem_replicate _
  have hgreatest : (unseen n).greatest.get i = unseenGreatest := Vector.getElem_replicate _
  obtain ⟨hl, hg⟩ := get_foldl_fold (unseen n) polls i
  rw [hleast] at hl
  rw [hgreatest] at hg
  exact ⟨hl ▸ reportsLeast_foldl hvalues, hg ▸ reportsGreatest_foldl hvalues⟩

namespace Extremes

section
variable {n : Nat} (kind : Extremes → Span n) (values : Readings → Vector Float32 n)

theorem kind_foldl_fold (hfold : ∀ e r, kind (e.fold r) = (kind e).fold (values r)) (e : Extremes)
    (polls : List Readings) :
    kind (polls.foldl fold e) = (polls.map values).foldl Span.fold (kind e) := by
  rw [List.foldl_map]
  refine (List.foldl_hom kind fun e r => ?_).symm
  exact (hfold e r).symm

/-- A kind of entries that every poll is folded into. -/
theorem reports_kind (hfold : ∀ e r, kind (e.fold r) = (kind e).fold (values r))
    (hunseen : kind unseen = .unseen n) (polls : List Readings)
    (hnumber : ∀ q ∈ polls, ∀ i, ((values q).get i).isNaN = false) (i : Fin n) :
    ReportsLeast ((kind (polls.foldl fold unseen)).least.get i) Span.unseenLeast
        (polls.map fun q => (values q).get i) ∧
      ReportsGreatest ((kind (polls.foldl fold unseen)).greatest.get i) Span.unseenGreatest
        (polls.map fun q => (values q).get i) := by
  have hvalues : ∀ v ∈ polls.map values, ∀ i, (v.get i).isNaN = false := by
    intro v hv
    obtain ⟨q, hq, rfl⟩ := List.mem_map.mp hv
    exact hnumber q hq
  have hreports := Span.reports_foldl (polls.map values) hvalues i
  rw [List.map_map] at hreports
  rw [kind_foldl_fold kind values hfold, hunseen]
  exact hreports

end

/-- Of the polls, the payload board's values count only where its answer was valid. -/
theorem sensor_foldl_fold (e : Extremes) (polls : List Readings) :
    (polls.foldl fold e).sensor =
      ((polls.filter Readings.payloadValid).map Readings.sensor).foldl Span.fold e.sensor := by
  induction polls generalizing e with
  | nil => rfl
  | cons r rest ih =>
    rw [List.foldl_cons, ih, fold]
    cases hvalid : r.payloadValid with
    | true =>
      rw [List.filter_cons_of_pos hvalid]
      rfl
    | false =>
      rw [List.filter_cons_of_neg (by rw [hvalid]; decide)]
      rfl

end Extremes

theorem Readings.isNaN_of_isFinite {r : Readings} (h : r.isFinite = true) :
    (∀ i, (r.voltage.get i).isNaN = false) ∧ (∀ i, (r.current.get i).isNaN = false) ∧
      (∀ i, (r.sensor.get i).isNaN = false) ∧ ∀ i, (r.other.get i).isNaN = false := by
  have hget : ∀ {n : Nat} (values : Vector Float32 n), values.all Float32.isFinite = true →
      ∀ i, (values.get i).isNaN = false := by
    intro n values hall i
    exact Comparison.isNaN_of_isFinite (Vector.all_eq_true.mp hall i.val i.isLt)
  simp only [isFinite, Bool.and_eq_true] at h
  obtain ⟨⟨⟨hvoltage, hcurrent⟩, hsensor⟩, hother⟩ := h
  exact ⟨hget _ hvoltage, hget _ hcurrent, hget _ hsensor, hget _ hother⟩

namespace Extremes

/-- What is reported after any polls with finite values. An entry that had a value below 1000 is
reported by its least value, and one that had a value above -1000 by its greatest. Otherwise the
bound itself is reported, or, for the payload board, the present value. -/
theorem reported_extremes (polls : List Readings) (hfinite : ∀ q ∈ polls, q.isFinite = true)
    (now : Readings) :
    let e := polls.foldl fold unseen
    let valid := polls.filter Readings.payloadValid
    let low := e.leastReadings now
    let high := e.greatestReadings now
    (∀ i, ReportsLeast (low.voltage.get i) 1000.0 (polls.map fun q => q.voltage.get i) ∧
      ReportsGreatest (high.voltage.get i) (-1000.0) (polls.map fun q => q.voltage.get i)) ∧
    (∀ i, ReportsLeast (low.current.get i) 1000.0 (polls.map fun q => q.current.get i) ∧
      ReportsGreatest (high.current.get i) (-1000.0) (polls.map fun q => q.current.get i)) ∧
    (∀ i, ReportsLeast (low.other.get i) 1000.0 (polls.map fun q => q.other.get i) ∧
      ReportsGreatest (high.other.get i) (-1000.0) (polls.map fun q => q.other.get i)) ∧
    ∀ i, ReportsLeast (low.sensor.get i) (now.sensor.get i)
        (valid.map fun q => q.sensor.get i) ∧
      ReportsGreatest (high.sensor.get i) (now.sensor.get i)
        (valid.map fun q => q.sensor.get i) := by
  intro e valid low high
  have hnumber := fun q hq => Readings.isNaN_of_isFinite (hfinite q hq)
  refine ⟨?_, ?_, ?_, fun i => ?_⟩
  · exact reports_kind Extremes.voltage Readings.voltage (fun _ _ => rfl) rfl polls
      fun q hq => (hnumber q hq).1
  · exact reports_kind Extremes.current Readings.current (fun _ _ => rfl) rfl polls
      fun q hq => (hnumber q hq).2.1
  · exact reports_kind Extremes.other Readings.other (fun _ _ => rfl) rfl polls
      fun q hq => (hnumber q hq).2.2.2
  · have hsensors : ∀ values ∈ valid.map Readings.sensor, ∀ i, (values.get i).isNaN = false := by
      intro values hv
      obtain ⟨q, hq, rfl⟩ := List.mem_map.mp hv
      exact (hnumber q (List.mem_filter.mp hq).1).2.2.1
    obtain ⟨hleast, hgreatest⟩ := Span.reports_foldl (valid.map Readings.sensor) hsensors i
    have hkind : e.sensor = (valid.map Readings.sensor).foldl Span.fold (.unseen _) :=
      sensor_foldl_fold unseen polls
    have hlow : low.sensor.get i = if e.sensor.least.get i != Span.unseenLeast
        then e.sensor.least.get i else now.sensor.get i := Vector.getElem_zipWith _
    have hhigh : high.sensor.get i = if e.sensor.greatest.get i != Span.unseenGreatest
        then e.sensor.greatest.get i else now.sensor.get i := Vector.getElem_zipWith _
    rw [← hkind, List.map_map] at hleast hgreatest
    rw [hlow, hhigh]
    exact ⟨hleast.stoodIn _, hgreatest.stoodIn _⟩

theorem reported_extremes_invalid_between :
    let warm : Readings :=
      { Readings.zero with
        voltage := Vector.replicate powerChannels 4.0
        sensor := Vector.replicate payloadSensors 998.5
        payloadValid := true }
    let faulty : Readings :=
      { Readings.zero with
        voltage := Vector.replicate powerChannels 3.5
        sensor := Vector.replicate payloadSensors (-40.0) }
    let polls := [warm, faulty]
    let e := polls.foldl fold unseen
    let panel : Fin powerChannels := ⟨0, by decide⟩
    let gauge : Fin payloadSensors := ⟨3, by decide⟩
    (∀ q ∈ polls, q.isFinite = true) ∧
      (e.leastReadings .zero).voltage.get panel = 3.5 ∧
      IsLeast {v | v ∈ polls.map fun q => q.voltage.get panel}
        ((e.leastReadings .zero).voltage.get panel) ∧
      (e.leastReadings .zero).sensor.get gauge = 998.5 ∧
      IsLeast {v | v ∈ (polls.filter Readings.payloadValid).map fun q => q.sensor.get gauge}
        ((e.leastReadings .zero).sensor.get gauge) := by
  intro warm faulty polls e panel gauge
  have hfinite : ∀ q ∈ polls, q.isFinite = true := by decide +kernel
  obtain ⟨hvoltage, -, -, hsensor⟩ := reported_extremes polls hfinite .zero
  have hlow : ∃ v ∈ polls.map fun q => q.voltage.get panel, v < Span.unseenLeast := by
    decide +kernel
  have hvalid : ∃ v ∈ (polls.filter Readings.payloadValid).map fun q => q.sensor.get gauge,
      v < Span.unseenLeast := by
    decide +kernel
  exact ⟨hfinite, by decide +kernel, (hvoltage panel).1.seen hlow, by decide +kernel,
    (hsensor gauge).1.seen hvalid⟩

/-- A pressure at sea level is above the bound for nothing seen: it was read twice and the board was
valid, yet the present pressure is reported as the least one. -/
theorem sea_level_pressure_taken_for_unseen :
    let air (pressure : Float32) : Readings :=
      { Readings.zero with
        sensor := (Vector.replicate payloadSensors 20.0).set 3 pressure (by decide)
        payloadValid := true }
    let polls := [air 1013.25, air 1020.5]
    let e := polls.foldl fold unseen
    (∀ q ∈ polls, q.isFinite = true ∧ q.payloadValid = true) ∧
      polls.map Readings.pressure = [1013.25, 1020.5] ∧
      (e.leastReadings (air 1030.0)).pressure = 1030.0 ∧
      ¬IsLeast {v | v ∈ polls.map Readings.pressure} (e.leastReadings (air 1030.0)).pressure := by
  intro air polls e
  have hseen : polls.map Readings.pressure = [1013.25, 1020.5] := by decide +kernel
  have hreported : (e.leastReadings (air 1030.0)).pressure = 1030.0 := by decide +kernel
  refine ⟨by decide +kernel, hseen, hreported, fun hleast => ?_⟩
  have hmem : (1030.0 : Float32) ∈ polls.map Readings.pressure := hreported ▸ hleast.1
  rw [hseen, List.mem_cons, List.mem_singleton] at hmem
  exact absurd hmem (by decide +kernel)

end Extremes

end Downlink
