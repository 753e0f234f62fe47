import Mathlib
import Downlink.Proofs.Session.Cycles
import Downlink.RandomStream

/-!
# What a session does to lamps and receiver

A call delivers samples between transmit lamp on and transmit lamp off, blinks the power lamp for a
low battery, or does nothing. Samples go out under a lit transmit lamp only, whatever the order of
the calls.
-/

namespace Downlink

namespace SessionEvent

/-- Samples go out between transmit lamp on and transmit lamp off. -/
def transmission (samples : Array Int16) (accepted : Bool) : List SessionEvent :=
  [.lamp (.transmit true), .send samples accepted, .lamp (.transmit false)]

/-- For a low battery the transmit lamp goes out and the power lamp blinks twice. -/
def shutdown : List SessionEvent :=
  [.lamp (.transmit false), .lamp (.power false), .lamp (.power true), .lamp (.power false),
    .lamp (.power true), .lamp (.power false)]

/-! ### The transmit lamp -/

/-- Whether the transmit lamp is lit behind an event. -/
def lit (before : Bool) : SessionEvent → Bool
  | .lamp (.transmit on) => on
  | .lamp (.power _) => before
  | .send _ _ => before

/-- The transmit lamp after events that found it dark. -/
def litAfter (events : List SessionEvent) : Bool := events.foldl lit false

theorem litAfter_append (xs ys : List SessionEvent) (hx : litAfter xs = false) :
    litAfter (xs ++ ys) = litAfter ys := by
  unfold litAfter at hx ⊢
  rw [List.foldl_append, hx]

/-- Every sending stands directly between transmit lamp on and transmit lamp off. -/
def SendsLit (events : List SessionEvent) : Prop :=
  ∀ before samples accepted after, events = before ++ .send samples accepted :: after →
    before.getLast? = some (.lamp (.transmit true)) ∧
      after.head? = some (.lamp (.transmit false))

theorem SendsLit.of_no_send {events : List SessionEvent}
    (h : ∀ samples accepted, .send samples accepted ∉ events) : SendsLit events := by
  intro before samples accepted after heq
  refine absurd ?_ (h samples accepted)
  rw [heq]
  exact List.mem_append_right before List.mem_cons_self

theorem SendsLit.append {xs ys : List SessionEvent} (hx : SendsLit xs) (hy : SendsLit ys) :
    SendsLit (xs ++ ys) := by
  intro before samples accepted after heq
  rcases List.append_eq_append_iff.mp heq with ⟨mid, hbefore, hys⟩ | ⟨mid, hxs, hmid⟩
  · obtain ⟨hlast, hhead⟩ := hy mid samples accepted after hys
    exact ⟨by rw [hbefore, List.getLast?_append, hlast, Option.some_or], hhead⟩
  · cases mid with
    | nil =>
      rw [List.nil_append] at hmid
      obtain ⟨hlast, -⟩ := hy [] samples accepted after hmid.symm
      exact absurd hlast (by simp)
    | cons event mid =>
      rw [List.cons_append, List.cons_eq_cons] at hmid
      obtain ⟨rfl, hafter⟩ := hmid
      obtain ⟨hlast, hhead⟩ := hx before samples accepted mid hxs
      exact ⟨hlast, by rw [hafter, List.head?_append, hhead, Option.some_or]⟩

theorem sendsLit_transmission (samples : Array Int16) (accepted : Bool) :
    SendsLit (transmission samples accepted) := by
  intro before _ _ after heq
  -- The sending is the second of three events, so that one event stands before it.
  rcases before with _ | ⟨on, _ | ⟨sent, _ | ⟨off, rest⟩⟩⟩
  · exact absurd heq (by simp [transmission])
  · simp only [transmission, List.cons_append, List.nil_append, List.cons.injEq] at heq
    obtain ⟨rfl, -, rfl⟩ := heq
    exact ⟨rfl, rfl⟩
  · exact absurd heq (by simp [transmission])
  · exact absurd heq (by simp [transmission])

end SessionEvent

namespace Session

variable {γ : Type}

open SessionEvent

/-- The samples that a call returns, none if it fails. -/
def Reply.samples : Reply → Array Int16
  | .identified samples => samples.getD #[]
  | .cycled (.ok report) => report.samples
  | .cycled (.error _) => #[]

/-- The call failed, and with a low battery. -/
def Reply.Low (reply : Reply) : Prop :=
  ∃ volts threshold, reply = .cycled (.error (.batteryLow volts threshold))

/-! ### One call -/

/-- What a call does fits what it answers; `accepted` is what the receiver would say. -/
inductive Acts (accepted : Bool) : Reply → List SessionEvent → Prop where
  | unidentified : Acts accepted (.identified none) []
  | unheard (samples : Array Int16) (h : samples = #[]) : Acts accepted (.identified samples) []
  | heard (samples : Array Int16) (h : samples ≠ #[]) :
    Acts accepted (.identified samples) (transmission samples accepted)
  | idle (report : CycleReport) (h : report.samples = #[]) (hd : report.delivered = false) :
    Acts accepted (.cycled (.ok report)) []
  | sent (report : CycleReport) (h : report.samples ≠ #[]) (hd : report.delivered = accepted) :
    Acts accepted (.cycled (.ok report)) (transmission report.samples accepted)
  | stopped (volts threshold : Float32) :
    Acts accepted (.cycled (.error (.batteryLow volts threshold))) shutdown

theorem Acts.litAfter_eq {accepted : Bool} {reply : Reply} {events : List SessionEvent}
    (h : Acts accepted reply events) : litAfter events = false := by
  cases h <;> rfl

theorem Acts.sendsLit {accepted : Bool} {reply : Reply} {events : List SessionEvent}
    (h : Acts accepted reply events) : SendsLit events := by
  have hnone : SendsLit [] := SendsLit.of_no_send (by simp)
  cases h with
  | unidentified => exact hnone
  | unheard => exact hnone
  | heard samples => exact sendsLit_transmission samples accepted
  | idle => exact hnone
  | sent report => exact sendsLit_transmission report.samples accepted
  | stopped => exact SendsLit.of_no_send (by simp [shutdown])

theorem Acts.cases_events {accepted : Bool} {reply : Reply} {events : List SessionEvent}
    (h : Acts accepted reply events) :
    (¬ reply.Low ∧ reply.samples = #[] ∧ events = []) ∨
      (¬ reply.Low ∧ reply.samples ≠ #[] ∧ events = transmission reply.samples accepted) ∨
      (reply.Low ∧ events = shutdown) := by
  cases h with
  | unidentified => exact Or.inl ⟨by simp [Reply.Low], rfl, rfl⟩
  | unheard samples h => exact Or.inl ⟨by simp [Reply.Low], h, rfl⟩
  | heard samples h => exact Or.inr (Or.inl ⟨by simp [Reply.Low], h, rfl⟩)
  | idle report h => exact Or.inl ⟨by simp [Reply.Low], h, rfl⟩
  | sent report h => exact Or.inr (Or.inl ⟨by simp [Reply.Low], h, rfl⟩)
  | stopped volts threshold => exact Or.inr (Or.inr ⟨⟨volts, threshold, rfl⟩, rfl⟩)

theorem Acts.low_of_fault {accepted : Bool} {reply : Reply} {events : List SessionEvent}
    (h : Acts accepted reply events) (fault : Error) (hfault : reply = .cycled (.error fault)) :
    reply.Low := by
  cases h with
  | stopped volts threshold => exact ⟨volts, threshold, rfl⟩
  | _ => simp at hfault

theorem Acts.delivered_iff {accepted : Bool} {reply : Reply} {events : List SessionEvent}
    (h : Acts accepted reply events) (report : CycleReport) (hok : reply = .cycled (.ok report)) :
    report.delivered = true ↔ .send report.samples true ∈ events := by
  cases h with
  | idle next _ hd =>
    obtain rfl : next = report := by simpa using hok
    simp [hd]
  | sent next _ hd =>
    obtain rfl : next = report := by simpa using hok
    cases accepted <;> simp [hd, transmission]
  | _ => simp at hok

theorem deliver_eq (s : Session γ) (w : Surroundings) (samples : Array Int16) :
    (samples = #[] ∧ s.deliver w samples = ⟨false, [], s⟩) ∨
    (samples ≠ #[] ∧ s.deliver w samples =
      ⟨w.accepts s.deliveries, transmission samples (w.accepts s.deliveries),
        { s with deliveries := s.deliveries + 1 }⟩) := by
  rw [deliver]
  by_cases hempty : samples = #[]
  · exact Or.inl ⟨hempty, if_pos (Array.isEmpty_iff.mpr hempty)⟩
  · exact Or.inr ⟨hempty, if_neg fun h => hempty (Array.isEmpty_iff.mp h)⟩

theorem acts_identify [Generator γ] (s : Session γ) (w : Surroundings) :
    Acts (w.accepts s.deliveries) (s.call w .identify).answer (s.call w .identify).events := by
  rw [call, identify]
  cases s.identification? with
  | none => exact .unidentified
  | some samples =>
    rcases s.deliver_eq w samples with ⟨hempty, hdeliver⟩ | ⟨hsome, hdeliver⟩
    · simp only [hdeliver]
      exact .unheard samples hempty
    · simp only [hdeliver]
      exact .heard samples hsome

/-! ### Frames deliver nothing -/

theorem deliveries_poll (s : Session γ) (input : FrameInput) :
    (s.poll input).2.deliveries = s.deliveries := by
  rw [poll]
  cases input.poll <;> rfl

theorem deliveries_sendFrame (s : Session γ) (m : Modulation) (input : FrameInput) (r : Readings)
    (report : CycleReport) : (s.sendFrame m input r report).2.deliveries = s.deliveries := by
  unfold sendFrame
  cases s.encoder with
  | none => rfl
  | some e =>
    dsimp only
    split <;> rfl

theorem deliveries_frame [Generator γ] (s : Session γ) (w : Surroundings) (report : CycleReport) :
    (s.frame w report).session.deliveries = s.deliveries := by
  have hpoll := s.deliveries_poll (w.frame s.polls)
  unfold frame
  dsimp only
  split
  · exact hpoll
  · split
    · exact (deliveries_sendFrame _ _ _ _ _).trans hpoll
    · exact hpoll

theorem deliveries_frames [Generator γ] (w : Surroundings) (n : Nat) (s : Session γ)
    (report : CycleReport) :
    (frames w n s report).session.deliveries = s.deliveries := by
  induction n generalizing s report with
  | zero => rfl
  | succ n ih =>
    have hframe := s.deliveries_frame w report
    rw [frames]
    generalize s.frame w report = step at hframe ⊢
    rcases step with ⟨fault | next, events, s'⟩
    · exact hframe
    · exact (ih s' next).trans hframe

/-! ### A cycle -/

section
variable {w : Surroundings} {options : SessionOptions} {done : List Encoder.Call} {s : Session γ}
  [Generator γ]

/-- No frame touches the lamps unless its battery is low, so that a cycle stops before anything is
delivered or delivers all its samples at its end. -/
theorem Reached.acts_cycle (h : Reached w options done s) :
    Acts (w.accepts s.deliveries) (s.call w .cycle).answer (s.call w .cycle).events := by
  have hcount := h.framesPerCycle_eq
  have hdeliveries := deliveries_frames w options.framesPerCycle { s with cycles := s.cycles + 1 }
    (CycleReport.blank (s.cycles + 1))
  rcases h.counted.frames_cases options.framesPerCycle (CycleReport.blank (s.cycles + 1)) with
    ⟨k, -, -, -, s', hframes, -⟩ | ⟨-, next, s', hframes, -, -⟩
  · simp only [call, cycle, collect, hcount, hframes, complete]
    exact .stopped _ _
  · rw [hframes] at hdeliveries
    have hdeliveries : s'.deliveries = s.deliveries := hdeliveries
    simp only [call, cycle, collect, hcount, hframes, complete, List.nil_append]
    rcases s'.deliver_eq w (s'.cycleSamples next) with ⟨hempty, hdeliver⟩ | ⟨hsome, hdeliver⟩
    · simp only [hdeliver]
      exact .idle _ hempty rfl
    · simp only [hdeliver, hdeliveries]
      exact .sent _ hsome rfl

theorem Reached.acts (h : Reached w options done s) (call : Call) :
    Acts (w.accepts s.deliveries) (s.call w call).answer (s.call w call).events := by
  cases call with
  | identify => exact s.acts_identify w
  | cycle => exact h.acts_cycle

/-! ### All calls -/

/-- What calls do to the world, one after the other. -/
def eventsOf (s : Session γ) (w : Surroundings) (calls : List Call) : List SessionEvent :=
  (s.run w calls).flatMap SessionStep.events

theorem Reached.events (h : Reached w options done s) (calls : List Call) :
    litAfter (s.eventsOf w calls) = false ∧ SendsLit (s.eventsOf w calls) := by
  induction calls generalizing done s with
  | nil => exact ⟨rfl, SendsLit.of_no_send (by simp [eventsOf, run])⟩
  | cons call rest ih =>
    have hacts := h.acts call
    obtain ⟨hlit, hsends⟩ := ih (h.afterAll [call])
    have hevents : s.eventsOf w (call :: rest) =
        (s.call w call).events ++ (s.afterAll w [call]).eventsOf w rest := by
      rw [eventsOf, run, List.flatMap_cons]
      rfl
    rw [hevents]
    exact ⟨(litAfter_append _ _ hacts.litAfter_eq).trans hlit, hacts.sendsLit.append hsends⟩

end

/-- After any calls on a new session, the next call does one of three things: nothing, if it returns
no samples; it sends the samples that it returns, between transmit lamp on and transmit lamp off; or
it puts the transmit lamp out and blinks the power lamp, if and only if it fails, which is with a
low battery. A report is marked as delivered if and only if its samples were sent and accepted. Over
all calls, samples go out under a lit transmit lamp only, and it is dark between the calls. -/
theorem samples_sent_between_lamps [Generator γ] (w : Surroundings) (options : SessionOptions)
    (stream : γ) (start : Session γ) (hstart : Session.start options stream = .ok start)
    (calls : List Call) (call : Call) :
    let s := start.afterAll w calls
    let step := s.call w call
    ((¬ step.answer.Low ∧ step.answer.samples = #[] ∧ step.events = []) ∨
      (¬ step.answer.Low ∧ step.answer.samples ≠ #[] ∧
        step.events =
          [.lamp (.transmit true), .send step.answer.samples (w.accepts s.deliveries),
            .lamp (.transmit false)]) ∨
      (step.answer.Low ∧
        step.events =
          [.lamp (.transmit false), .lamp (.power false), .lamp (.power true),
            .lamp (.power false), .lamp (.power true), .lamp (.power false)])) ∧
    (∀ fault, step.answer = .cycled (.error fault) → step.answer.Low) ∧
    (∀ report, step.answer = .cycled (.ok report) →
      (report.delivered = true ↔ .send report.samples true ∈ step.events)) ∧
    litAfter (start.eventsOf w calls) = false ∧
    ∀ before samples accepted after,
      start.eventsOf w calls = before ++ .send samples accepted :: after →
      before.getLast? = some (.lamp (.transmit true)) ∧
        after.head? = some (.lamp (.transmit false)) := by
  intro s step
  obtain ⟨-, hnew⟩ := (start_eq_ok_iff options stream start).mp hstart
  have hinitial := reached_initial w options stream
  rw [← hnew] at hinitial
  have hreached : Reached w options (start.encoderCalls w calls) s := hinitial.afterAll calls
  have hacts := hreached.acts call
  obtain ⟨hlit, hsends⟩ := hinitial.events calls
  exact ⟨hacts.cases_events, hacts.low_of_fault, hacts.delivered_iff, hlit, hsends⟩

theorem samples_sent_between_lamps_frame_withheld :
    let options : SessionOptions := ⟨.fsk, Board.vb5, .initial, 2, false, true⟩
    let flat : Readings := { Readings.zero with voltage := Vector.replicate powerChannels 2.5 }
    let w : Surroundings :=
      { frame := fun k => ⟨.ok (if k = 1 then flat else .zero), .ok 0, 0⟩, accepts := fun _ => true }
    let stream := RandomStream.ofSeed 1
    let step := (initial options stream).call w .cycle
    Session.start options stream = .ok (initial options stream) ∧ step.session.framesSent = 1 ∧
      step.answer.Low ∧ ∀ samples accepted, .send samples accepted ∉ step.events := by
  intro options flat w stream step
  have hstart : Session.start options stream = .ok (initial options stream) :=
    (start_eq_ok_iff options stream _).mpr ⟨by decide, rfl⟩
  -- The second of the two polls finds the battery low, behind a frame that was encoded.
  have hsent : step.session.framesSent = 1 := by decide +kernel
  have hcount : step.events.length = 6 := by decide +kernel
  obtain ⟨hcases, -⟩ := samples_sent_between_lamps w options stream _ hstart [] .cycle
  have hevents : ∀ events, step.events = events → events.length = 6 := by
    intro events heq
    rw [← heq, hcount]
  rcases hcases with ⟨-, -, hnone⟩ | ⟨-, -, hsend⟩ | ⟨hlow, hstop⟩
  · exact absurd (hevents _ hnone) (by decide)
  · exact absurd (hevents _ hsend) (by simp)
  · refine ⟨hstart, hsent, hlow, ?_⟩
    intro samples accepted hmem
    have hstop : step.events = shutdown := hstop
    rw [hstop, shutdown] at hmem
    simp at hmem

end Session

end Downlink
