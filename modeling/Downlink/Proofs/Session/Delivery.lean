import Mathlib
import Downlink.Proofs.Session.Calls

/-!
# What a receiver can change

Whether samples are accepted is noted in the report and goes no further. Two sessions with the same
sensors and different receivers encode the same, now and later.
-/

namespace Downlink

/-- What a session did, without what the receiver said to it. -/
def SessionEvent.unacknowledged : SessionEvent → SessionEvent
  | .lamp change => .lamp change
  | .send samples _ => .send samples false

/-- An answer without the mark that its samples were accepted. -/
def Session.Reply.unacknowledged : Session.Reply → Session.Reply
  | .identified samples => .identified samples
  | .cycled (.ok report) => .cycled (.ok { report with delivered := false })
  | .cycled (.error fault) => .cycled (.error fault)

/-- A call as the session knows it: without what the receiver said. -/
def SessionStep.unacknowledged {γ : Type} (step : SessionStep γ Session.Reply) :
    SessionStep γ Session.Reply :=
  ⟨step.answer.unacknowledged, step.events.map SessionEvent.unacknowledged, step.session⟩

namespace Session

variable {γ : Type} (polls : Nat → FrameInput) (accepts accepts' : Nat → Bool)

theorem deliver_receiver (s : Session γ) (samples : Array Int16) :
    let step := s.deliver ⟨polls, accepts⟩ samples
    let step' := s.deliver ⟨polls, accepts'⟩ samples
    step.events.map SessionEvent.unacknowledged = step'.events.map SessionEvent.unacknowledged ∧
      step.session = step'.session := by
  intro step step'
  simp only [step, step', deliver]
  split
  · exact ⟨rfl, rfl⟩
  · exact ⟨rfl, rfl⟩

variable [Generator γ]

theorem frames_receiver (n : Nat) (s : Session γ) (report : CycleReport) :
    frames ⟨polls, accepts⟩ n s report = frames ⟨polls, accepts'⟩ n s report := by
  induction n generalizing s report with
  | zero => rfl
  | succ n ih =>
    have hframe : s.frame ⟨polls, accepts⟩ report = s.frame ⟨polls, accepts'⟩ report := rfl
    rw [frames, frames, hframe]
    rcases s.frame ⟨polls, accepts'⟩ report with ⟨fault | next, events, s⟩
    · rfl
    · simp only [ih]

theorem collect_receiver (s : Session γ) :
    s.collect ⟨polls, accepts⟩ = s.collect ⟨polls, accepts'⟩ := by
  rw [collect, collect, frames_receiver polls accepts accepts']

theorem call_receiver (s : Session γ) (call : Call) :
    (s.call ⟨polls, accepts⟩ call).unacknowledged =
      (s.call ⟨polls, accepts'⟩ call).unacknowledged := by
  cases call with
  | identify =>
    rw [Session.call, Session.call, identify, identify]
    cases s.identification? with
    | none => rfl
    | some samples =>
      obtain ⟨hevents, hsession⟩ := deliver_receiver polls accepts accepts' s samples
      simp only [SessionStep.unacknowledged, hevents, hsession]
  | cycle =>
    rw [Session.call, Session.call, cycle, cycle, collect_receiver polls accepts accepts']
    rcases s.collect ⟨polls, accepts'⟩ with ⟨fault | report, events, s⟩
    · rfl
    · obtain ⟨hevents, hsession⟩ := deliver_receiver polls accepts accepts' s report.samples
      simp only [complete, SessionStep.unacknowledged, Reply.unacknowledged, List.map_append,
        hevents, hsession]

/-- Whatever two receivers accept, the same calls on the same session give the same answers, do the
same to the lamps and send the same samples, and leave the same session after each call. Only the
`delivered` mark of a report tells the receivers apart. -/
theorem receiver_changes_only_delivered (s : Session γ) (calls : List Call) :
    (s.run ⟨polls, accepts⟩ calls).map SessionStep.unacknowledged =
      (s.run ⟨polls, accepts'⟩ calls).map SessionStep.unacknowledged := by
  -- The session behind a call is the same for both, so that the rest starts from one session again.
  induction calls generalizing s with
  | nil => rfl
  | cons call rest ih =>
    have hcall := call_receiver polls accepts accepts' s call
    have hsession : (s.call ⟨polls, accepts⟩ call).session =
        (s.call ⟨polls, accepts'⟩ call).session := congrArg (fun step => step.session) hcall
    rw [run, run, List.map_cons, List.map_cons, hcall, hsession, ih]

end Session

end Downlink
