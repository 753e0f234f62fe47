import Mathlib
import Downlink.Proofs.Session.Cycles
import Downlink.RandomStream

/-!
# Why a cycle fails

The encoder of a session refuses no frame, so that a low battery is all that fails a cycle. A
session that was stopped by one can go on, and its next cycle is held to the same rule.
-/

namespace Downlink

theorem SessionOptions.stopsAt_eq_true_iff (o : SessionOptions) (w : Surroundings) (k : Nat) :
    o.stopsAt w k = true ↔
      o.checksBattery = true ∧ 1.0 < o.voltsAt w k ∧ o.voltsAt w k < o.board.threshold := by
  rw [stopsAt, Bool.and_eq_true, Battery.isLow, Bool.and_eq_true, decide_eq_true_iff,
    decide_eq_true_iff, Battery.presentVolts]

namespace Session

variable {γ : Type} [Generator γ]

section
variable {w : Surroundings} {options : SessionOptions} {done : List Encoder.Call} {s : Session γ}

theorem Reached.cycle_fault (h : Reached w options done s) (fault : Error)
    (hfault : (s.cycle w).answer = .error fault) :
    ∃ k < options.framesPerCycle, (∀ i < k, options.stopsAt w (s.polls + i) = false) ∧
      options.stopsAt w (s.polls + k) = true ∧
      fault = .batteryLow (options.voltsAt w (s.polls + k)) options.board.threshold := by
  rcases h.cycle_cases.2 with ⟨k, hk, hfront, hstops, hanswer⟩ | ⟨-, report, hanswer, -⟩
  · exact ⟨k, hk, hfront, hstops, Except.error.inj (hfault.symm.trans hanswer)⟩
  · exact absurd (hfault.symm.trans hanswer) (by simp)

theorem Reached.cycle_fails_iff (h : Reached w options done s) :
    (∃ fault, (s.cycle w).answer = .error fault) ↔
      ∃ k < options.framesPerCycle, options.stopsAt w (s.polls + k) = true := by
  constructor
  · rintro ⟨fault, hfault⟩
    obtain ⟨k, hk, -, hstops, -⟩ := h.cycle_fault fault hfault
    exact ⟨k, hk, hstops⟩
  · rintro ⟨k, hk, hstops⟩
    rcases h.cycle_cases.2 with ⟨first, -, -, -, hanswer⟩ | ⟨hgood, -⟩
    · exact ⟨_, hanswer⟩
    · rw [hgood k hk] at hstops
      exact absurd hstops Bool.false_ne_true

end

/-- After any calls on a new session, the next cycle fails if and only if the battery is checked and
is connected but below the threshold in one of its frames, and it fails with nothing but the first
such voltage. A frame whose poll failed goes by the readings of the last poll that did not. -/
theorem cycle_fails_iff_battery_low (w : Surroundings) (options : SessionOptions)
    (stream : γ) (start : Session γ) (hstart : Session.start options stream = .ok start)
    (calls : List Call) :
    let s := start.afterAll w calls
    let volts := fun k => (w.lastReadings (s.polls + k + 1)).batteryVoltage options.board.map
    let low := fun k => 1.0 < volts k ∧ volts k < options.board.threshold
    (∀ fault, (s.cycle w).answer = .error fault →
      ∃ k < options.framesPerCycle, low k ∧ (∀ i < k, ¬ low i) ∧
        fault = .batteryLow (volts k) options.board.threshold) ∧
    ((∃ fault, (s.cycle w).answer = .error fault) ↔
      options.checksBattery = true ∧ ∃ k < options.framesPerCycle, low k) := by
  intro s volts low
  have hstops : ∀ k, options.stopsAt w (s.polls + k) = true ↔
      options.checksBattery = true ∧ low k := fun k => options.stopsAt_eq_true_iff w (s.polls + k)
  have hreached := reached_of_start w options stream start hstart calls
  constructor
  · intro fault hfault
    obtain ⟨k, hk, hfront, hstop, heq⟩ := hreached.cycle_fault fault hfault
    obtain ⟨hcheck, hlow⟩ := (hstops k).mp hstop
    refine ⟨k, hk, hlow, ?_, heq⟩
    intro i hi hlow
    have hstop := (hstops i).mpr ⟨hcheck, hlow⟩
    rw [hfront i hi] at hstop
    exact Bool.false_ne_true hstop
  · rw [hreached.cycle_fails_iff]
    constructor
    · rintro ⟨k, hk, hstop⟩
      obtain ⟨hcheck, hlow⟩ := (hstops k).mp hstop
      exact ⟨hcheck, k, hk, hlow⟩
    · rintro ⟨hcheck, k, hk, hlow⟩
      exact ⟨k, hk, (hstops k).mpr ⟨hcheck, hlow⟩⟩

theorem cycle_fails_iff_battery_low_stale :
    let options : SessionOptions := ⟨.fsk, Board.vb5, .initial, 2, false, true⟩
    let flat : Readings := { Readings.zero with voltage := Vector.replicate powerChannels 2.5 }
    let w : Surroundings :=
      { frame := fun k =>
          ⟨if k = 0 then .ok flat else .error (.sensor (.exited "reader" (.code 1))), .ok 0, 0⟩
        accepts := fun _ => true }
    let stream := RandomStream.ofSeed 1
    let s := (initial options stream).afterAll w [.cycle]
    Session.start options stream = .ok (initial options stream) ∧ s.polls = 1 ∧
      (s.cycle w).answer = .error (.batteryLow 2.5 3.0) := by
  intro options flat w stream s
  have hstart : Session.start options stream = .ok (initial options stream) :=
    (start_eq_ok_iff options stream _).mpr ⟨by decide, rfl⟩
  have hpolls : s.polls = 1 := by decide +kernel
  have hlast : ∀ k, w.lastReadings (k + 1) = flat := by
    intro k
    induction k with
    | zero => rfl
    | succ k ih => exact ih
  have hvolts : flat.batteryVoltage options.board.map = 2.5 := rfl
  have hlow : (1.0 : Float32) < 2.5 ∧ (2.5 : Float32) < 3.0 := by decide +kernel
  obtain ⟨hfault, hiff⟩ :=
    cycle_fails_iff_battery_low w options stream (initial options stream) hstart [.cycle]
  simp only [hlast, hvolts] at hfault hiff
  obtain ⟨fault, hanswer⟩ := hiff.mpr ⟨rfl, 0, by decide, hlow⟩
  obtain ⟨k, -, -, -, rfl⟩ := hfault fault hanswer
  exact ⟨hstart, hpolls, hanswer⟩

end Session

end Downlink
