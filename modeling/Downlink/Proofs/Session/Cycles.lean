import Mathlib
import Downlink.Proofs.Session.Frames

/-!
# The cycles of a session

A cycle ends with a low battery, or with a report of its frames. Either way the session is one in
which the calls of its frames were made on the encoder, those of a cycle that failed included.
-/

namespace Downlink.Session

variable {γ : Type}

/-- The calls that the next cycle makes on the encoder, up to a frame that fails. -/
def cycleCalls [Generator γ] (s : Session γ) (w : Surroundings) : List Encoder.Call :=
  framesCalls w s.options.framesPerCycle { s with cycles := s.cycles + 1 }
    (CycleReport.blank (s.cycles + 1))

/-- The calls that calls on a session make on its encoder. -/
def encoderCalls [Generator γ] (s : Session γ) (w : Surroundings) :
    List Call → List Encoder.Call
  | [] => []
  | .identify :: rest => (s.call w .identify).session.encoderCalls w rest
  | .cycle :: rest => s.cycleCalls w ++ (s.call w .cycle).session.encoderCalls w rest

/-- The report of a cycle whose frames made some calls on the encoder. -/
structure Reports (options : SessionOptions) (made : List Encoder.Call) (report : CycleReport) :
    Prop where
  headers_eq : report.headers = made.map Encoder.Call.header
  length_made : made.length = options.framesPerCycle * options.mode.frameCount
  length_packets : report.packets.length = options.framesPerCycle * options.mode.framePackets
  size_samples : options.mode ≠ .cw →
    report.samples.size = options.framesPerCycle * options.mode.frameSamples
  samples_keyed : options.mode = .cw →
    report.samples = Keyer.standard.key (" ".intercalate report.packets)
  not_delivered : report.samples = #[] → report.delivered = false

section
variable {w : Surroundings} {options : SessionOptions} {done : List Encoder.Call} {s : Session γ}

theorem Reached.counted (h : Reached w options done s) :
    Reached w options done { s with cycles := s.cycles + 1 } :=
  h.of_unsent rfl rfl h.last_eq rfl

theorem Reached.framesPerCycle_eq (h : Reached w options done s) :
    s.options.framesPerCycle = options.framesPerCycle :=
  congrArg SessionOptions.framesPerCycle h.options_eq

theorem Reached.deliver (h : Reached w options done s) (samples : Array Int16) :
    Reached w options done (s.deliver w samples).session := by
  rw [Session.deliver]
  split
  · exact h
  · exact h.of_unsent rfl rfl h.last_eq rfl

theorem Reached.identify (h : Reached w options done s) :
    Reached w options done (s.identify w).session := by
  rw [Session.identify]
  cases s.identification? with
  | none => exact h
  | some samples => exact h.deliver samples

theorem Reached.collected (h : Reached w options done s) (made : List Encoder.Call) (cycle : Nat)
    (next : CycleReport)
    (hadds : Adds options.mode options.framesPerCycle made (CycleReport.blank cycle) next) :
    Reports options made
      { next with
        samples := s.cycleSamples next
        delivered := (s.deliver w (s.cycleSamples next)).answer } where
  headers_eq := hadds.headers_eq
  length_made := hadds.length_made
  length_packets := hadds.length_packets.trans (Nat.zero_add _)
  size_samples := by
    intro hmode
    show (s.cycleSamples next).size = _
    rw [cycleSamples, h.options_eq, if_neg hmode]
    exact hadds.size_samples.trans (Nat.zero_add _)
  samples_keyed := by
    intro hmode
    show s.cycleSamples next = _
    rw [cycleSamples, h.options_eq, if_pos hmode, h.keyer_eq]
  not_delivered := by
    intro hnone
    have hnone : s.cycleSamples next = #[] := hnone
    show (s.deliver w (s.cycleSamples next)).answer = false
    rw [hnone]
    rfl

variable [Generator γ]

/-- A cycle stops at the first poll with a low battery, or reports its frames. -/
theorem Reached.cycle_cases (h : Reached w options done s) :
    Reached w options (done ++ s.cycleCalls w) (s.cycle w).session ∧
    ((∃ k < options.framesPerCycle, (∀ i < k, options.stopsAt w (s.polls + i) = false) ∧
        options.stopsAt w (s.polls + k) = true ∧
        (s.cycle w).answer =
          .error (.batteryLow (options.voltsAt w (s.polls + k)) options.board.threshold)) ∨
      ((∀ i < options.framesPerCycle, options.stopsAt w (s.polls + i) = false) ∧
        ∃ report, (s.cycle w).answer = .ok report ∧ Reports options (s.cycleCalls w) report)) := by
  have hcount := h.framesPerCycle_eq
  rcases h.counted.frames_cases options.framesPerCycle (CycleReport.blank (s.cycles + 1)) with
    ⟨k, hk, hfront, hstops, s', hframes, hlast⟩ | ⟨hgood, next, s', hframes, hlast, hadds⟩
  · simp only [Session.cycle, collect, cycleCalls, hcount, hframes, complete]
    exact ⟨hlast, Or.inl ⟨k, hk, hfront, hstops, rfl⟩⟩
  · simp only [Session.cycle, collect, cycleCalls, hcount, hframes, complete]
    exact ⟨hlast.deliver _, Or.inr ⟨hgood, _, rfl, hlast.collected _ _ next hadds⟩⟩

theorem Reached.afterAll (h : Reached w options done s) (calls : List Call) :
    Reached w options (done ++ s.encoderCalls w calls) (s.afterAll w calls) := by
  induction calls generalizing done s with
  | nil =>
    rw [encoderCalls, List.append_nil]
    exact h
  | cons call rest ih =>
    cases call with
    | identify => exact ih h.identify
    | cycle =>
      rw [encoderCalls, ← List.append_assoc]
      exact ih h.cycle_cases.1

end

variable [Generator γ]

/-- Any calls on a new session reach a session in which their frames were made. -/
theorem reached_of_start (w : Surroundings) (options : SessionOptions) (stream : γ)
    (start : Session γ) (hstart : Session.start options stream = .ok start) (calls : List Call) :
    Reached w options (start.encoderCalls w calls) (start.afterAll w calls) := by
  obtain ⟨-, rfl⟩ := (start_eq_ok_iff options stream start).mp hstart
  exact (reached_initial w options stream).afterAll calls

theorem encoderCalls_append (s : Session γ) (w : Surroundings) (xs ys : List Call) :
    s.encoderCalls w (xs ++ ys) = s.encoderCalls w xs ++ (s.afterAll w xs).encoderCalls w ys := by
  induction xs generalizing s with
  | nil => rfl
  | cons call rest ih =>
    cases call with
    | identify => exact ih _
    | cycle =>
      rw [List.cons_append, encoderCalls, ih, encoderCalls, List.append_assoc]
      rfl

end Downlink.Session
