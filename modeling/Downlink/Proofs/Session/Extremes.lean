import Mathlib
import Downlink.Proofs.Session.Lamps
import Downlink.Proofs.Telemetry.FoldOrder
import Downlink.RandomStream

/-!
# What the extremes of a session are of

Every frame folds the readings it goes by into the extremes, those of a failed poll too. Readings
that were folded in last change nothing when they are folded in again, so that a failed poll leaves
no trace but one: before the first successful poll, it folds in zeros that nobody has read.
-/

namespace Downlink

/-- Readings that were folded in last change nothing when they are folded in again. -/
theorem Extremes.fold_fold (e : Extremes) (r : Readings) : (e.fold r).fold r = e.fold r :=
  fold_of_mem (List.mem_singleton_self r)

/-! ### The polls of a session -/

namespace Surroundings

/-- The readings of the successful polls among the first `n`, in order. -/
def seen (w : Surroundings) (n : Nat) : List Readings :=
  (List.range n).filterMap fun k => (w.frame k).poll.toOption

/-- What the extremes start from: a first poll that fails folds in zeros. -/
def outset (w : Surroundings) : Extremes :=
  match (w.frame 0).poll with
  | .ok _ => .unseen
  | .error _ => Extremes.unseen.fold .zero

/-- The extremes when the readings of every poll were folded in, those that a failed poll gives
again included. -/
def extremesAfter (w : Surroundings) : Nat → Extremes
  | 0 => .unseen
  | n + 1 => (w.extremesAfter n).fold (w.lastReadings (n + 1))

theorem seen_succ (w : Surroundings) (n : Nat) :
    w.seen (n + 1) = w.seen n ++ (w.frame n).poll.toOption.toList := by
  rw [seen, List.range_succ, List.filterMap_append]
  cases h : (w.frame n).poll with
  | ok r => simp [seen, h, Except.toOption]
  | error fault => simp [seen, h, Except.toOption]

theorem extremesAfter_succ (w : Surroundings) (n : Nat) :
    w.extremesAfter (n + 1) = (w.seen (n + 1)).foldl Extremes.fold w.outset := by
  induction n with
  | zero =>
    rw [seen_succ, extremesAfter, extremesAfter, lastReadings, outset]
    cases (w.frame 0).poll with
    | ok r => rfl
    | error fault => rfl
  | succ n ih =>
    rw [seen_succ, List.foldl_append, ← ih, extremesAfter]
    cases hpoll : (w.frame (n + 1)).poll with
    | ok r =>
      rw [lastReadings, hpoll]
      rfl
    | error fault =>
      -- The readings of the poll before are folded in once more.
      have hlast : w.lastReadings (n + 1 + 1) = w.lastReadings (n + 1) := by
        rw [lastReadings, hpoll]
      rw [hlast, extremesAfter, Extremes.fold_fold]
      rfl

end Surroundings

namespace Session

variable {γ : Type}

/-- A session that folded in the readings of all its `n` polls. -/
structure Tracks (w : Surroundings) (n : Nat) (s : Session γ) : Prop where
  polls_eq : s.polls = n
  extremes_eq : s.extremes = w.extremesAfter n

section
variable {w : Surroundings} {options : SessionOptions} {done : List Encoder.Call} {s : Session γ}
  {n : Nat}

theorem Tracks.noted (ht : Tracks w n s) : Tracks w (n + 1) (s.noted w) where
  polls_eq := congrArg (· + 1) ht.polls_eq
  extremes_eq := by
    show s.extremes.fold (w.lastReadings (s.polls + 1)) = _
    rw [ht.extremes_eq, ht.polls_eq, Surroundings.extremesAfter]

theorem Tracks.deliver (ht : Tracks w n s) (samples : Array Int16) :
    Tracks w n (s.deliver w samples).session := by
  rcases s.deliver_eq w samples with ⟨-, hdeliver⟩ | ⟨-, hdeliver⟩
  · rw [hdeliver]
    exact ht
  · rw [hdeliver]
    exact ⟨ht.polls_eq, ht.extremes_eq⟩

variable [Generator γ]

theorem Tracks.frame (ht : Tracks w n s) (h : Reached w options done s)
    (hgood : options.stopsAt w s.polls = false) (report : CycleReport) :
    Tracks w (n + 1) (s.frame w report).session := by
  cases hm : options.mode.modulation? with
  | none =>
    obtain ⟨packets, stream, hframe, -⟩ := h.frame_text hgood hm report
    rw [hframe]
    exact ⟨ht.noted.polls_eq, ht.noted.extremes_eq⟩
  | some m =>
    rw [h.frame_encoded hgood m hm report]
    exact ⟨ht.noted.polls_eq, ht.noted.extremes_eq⟩

theorem Tracks.frames (ht : Tracks w n s) (h : Reached w options done s) (count : Nat)
    (hgood : ∀ i < count, options.stopsAt w (s.polls + i) = false) (report : CycleReport) :
    Tracks w (n + count) (Session.frames w count s report).session := by
  induction count generalizing done s n report with
  | zero => exact ht
  | succ count ih =>
    have hfirst : options.stopsAt w s.polls = false := hgood 0 (Nat.succ_pos count)
    have htrack := ht.frame h hfirst report
    rcases h.frame_cases report with ⟨hstops, -⟩ | ⟨-, next, s', hframe, hpolls, hreached, -⟩
    · exact absurd (hstops.symm.trans hfirst) Bool.noConfusion
    · have hrest : ∀ i < count, options.stopsAt w (s'.polls + i) = false := by
        intro i hi
        have hi := hgood (i + 1) (Nat.succ_lt_succ hi)
        rwa [← Nat.add_assoc, Nat.add_right_comm, ← hpolls] at hi
      rw [hframe] at htrack
      have hlast := ih htrack hreached hrest next
      rw [Session.frames, hframe, Nat.add_comm count 1, ← Nat.add_assoc]
      exact hlast

theorem Tracks.identify (ht : Tracks w n s) : Tracks w n (s.call w .identify).session := by
  rw [call, Session.identify]
  cases s.identification? with
  | none => exact ht
  | some samples => exact ht.deliver samples

theorem Tracks.cycle (ht : Tracks w n s) (h : Reached w options done s)
    (hgood : ¬ (s.call w .cycle).answer.Low) :
    Tracks w (n + options.framesPerCycle) (s.call w .cycle).session := by
  have hcount := h.framesPerCycle_eq
  rcases h.cycle_cases.2 with ⟨k, -, -, -, hfault⟩ | ⟨hgood, -⟩
  · exact absurd ⟨_, _, congrArg Reply.cycled hfault⟩ hgood
  · have htrack : Tracks w n { s with cycles := s.cycles + 1 } := ⟨ht.polls_eq, ht.extremes_eq⟩
    have hframes := htrack.frames h.counted options.framesPerCycle hgood
      (CycleReport.blank (s.cycles + 1))
    simp only [call, Session.cycle, collect, hcount]
    generalize Session.frames w options.framesPerCycle { s with cycles := s.cycles + 1 }
      (CycleReport.blank (s.cycles + 1)) = step at hframes ⊢
    rcases step with ⟨fault | report, events, s'⟩
    · exact hframes
    · exact hframes.deliver _

/-- A session that never stops at a poll never fails. -/
theorem Reached.not_low (h : Reached w options done s) (hgood : ∀ k, options.stopsAt w k = false)
    (calls : List Call) : ∀ step ∈ s.run w calls, ¬ step.answer.Low := by
  induction calls generalizing done s with
  | nil => simp [run]
  | cons call rest ih =>
    rw [run, List.forall_mem_cons]
    refine ⟨?_, ih (h.afterAll [call])⟩
    rintro ⟨volts, threshold, hlow⟩
    cases call with
    | identify => simp [Session.call] at hlow
    | cycle =>
      obtain ⟨k, -, -, hstops, -⟩ | ⟨-, report, hok, -⟩ := h.cycle_cases.2
      · exact absurd (hstops.symm.trans (hgood _)) Bool.noConfusion
      · have hlow : (s.cycle w).answer = .error (.batteryLow volts threshold) :=
          Reply.cycled.inj hlow
        exact absurd (hok.symm.trans hlow) (by simp)

/-- How many of some calls run a cycle. -/
def cyclesOf : List Call → Nat
  | [] => 0
  | .identify :: rest => cyclesOf rest
  | .cycle :: rest => cyclesOf rest + 1

theorem Tracks.afterAll (ht : Tracks w n s) (h : Reached w options done s) (calls : List Call)
    (hgood : ∀ step ∈ s.run w calls, ¬ step.answer.Low) :
    Tracks w (n + cyclesOf calls * options.framesPerCycle) (s.afterAll w calls) := by
  induction calls generalizing done s n with
  | nil =>
    rw [cyclesOf, Nat.zero_mul]
    exact ht
  | cons call rest ih =>
    rw [run, List.forall_mem_cons] at hgood
    cases call with
    | identify => exact ih ht.identify (h.afterAll [.identify]) hgood.2
    | cycle =>
      have hlast := ih (ht.cycle h hgood.1) (h.afterAll [.cycle]) hgood.2
      rw [cyclesOf, Nat.add_mul, Nat.one_mul, Nat.add_comm (_ * _), ← Nat.add_assoc]
      exact hlast

end

/-- After calls on a new session none of which met a low battery, the extremes are those of the
readings of the successful polls, folded in one after the other. A failed poll adds nothing to them,
unless it is the first poll of the session: then the zeros that stand in for readings were folded in
before. -/
theorem extremes_follow_successful_polls [Generator γ] (w : Surroundings)
    (options : SessionOptions) (stream : γ) (start : Session γ)
    (hstart : Session.start options stream = .ok start) (calls : List Call)
    (hgood : ∀ step ∈ start.run w calls, ¬ step.answer.Low) :
    let s := start.afterAll w calls
    s.polls = cyclesOf calls * options.framesPerCycle ∧
    (∀ r, (w.frame 0).poll = .ok r →
      s.extremes = (w.seen s.polls).foldl Extremes.fold .unseen) ∧
    (∀ fault, (w.frame 0).poll = .error fault → s.polls ≠ 0 →
      s.extremes = (w.seen s.polls).foldl Extremes.fold (Extremes.unseen.fold .zero)) ∧
    (s.polls = 0 → s.extremes = .unseen) := by
  intro s
  obtain ⟨-, rfl⟩ := (start_eq_ok_iff options stream start).mp hstart
  have htrack : Tracks w (0 + cyclesOf calls * options.framesPerCycle) s :=
    Tracks.afterAll ⟨rfl, rfl⟩ (reached_initial w options stream) calls hgood
  rw [Nat.zero_add] at htrack
  have hextremes : s.extremes = w.extremesAfter s.polls := by
    rw [htrack.extremes_eq, htrack.polls_eq]
  refine ⟨htrack.polls_eq, ?_, ?_, ?_⟩
  · intro r hpoll
    rw [hextremes]
    cases s.polls with
    | zero => rfl
    | succ n => rw [Surroundings.extremesAfter_succ, Surroundings.outset, hpoll]
  · intro fault hpoll hpolls
    obtain ⟨n, hn⟩ := Nat.exists_eq_succ_of_ne_zero hpolls
    rw [hextremes, hn, Surroundings.extremesAfter_succ, Surroundings.outset, hpoll]
  · intro hpolls
    rw [hextremes, hpolls, Surroundings.extremesAfter]

theorem extremes_follow_successful_polls_failed_between :
    let options : SessionOptions := ⟨.afsk, Board.vb5, .initial, 1, false, true⟩
    let warm : Readings := { Readings.zero with voltage := Vector.replicate powerChannels 4.0 }
    let w : Surroundings :=
      { frame := fun k =>
          ⟨if k = 1 then .error (.sensor (.exited "reader" (.code 1))) else .ok warm, .ok 0, 0⟩
        accepts := fun _ => true }
    let stream := RandomStream.ofSeed 1
    let s := (initial options stream).afterAll w [.cycle, .cycle, .cycle]
    Session.start options stream = .ok (initial options stream) ∧ s.polls = 3 ∧
      s.extremes = (Extremes.unseen.fold warm).fold warm := by
  intro options warm w stream s
  have hstart : Session.start options stream = .ok (initial options stream) :=
    (start_eq_ok_iff options stream _).mpr ⟨by decide, rfl⟩
  have hwarm : ∀ k, w.lastReadings (k + 1) = warm := by
    intro k
    rcases k with _ | _ | k <;> rfl
  have hgood : ∀ k, options.stopsAt w k = false := by
    intro k
    rw [SessionOptions.stopsAt, SessionOptions.voltsAt, hwarm]
    decide +kernel
  obtain ⟨hpolls, hextremes, -⟩ := extremes_follow_successful_polls w options stream _ hstart
    [.cycle, .cycle, .cycle] ((reached_initial w options stream).not_low hgood _)
  have hpolls : s.polls = 3 := hpolls
  have hextremes := hextremes warm rfl
  rw [show ((initial options stream).afterAll w [.cycle, .cycle, .cycle]).polls = 3 from hpolls]
    at hextremes
  exact ⟨hstart, hpolls, hextremes⟩

/-- A first poll that fails leaves zeros behind: the least voltage is zero for good, although none
but four volts was ever read. -/
theorem failed_first_poll_enters_extremes :
    let options : SessionOptions := ⟨.afsk, Board.vb5, .initial, 1, false, true⟩
    let warm : Readings := { Readings.zero with voltage := Vector.replicate powerChannels 4.0 }
    let w : Surroundings :=
      { frame := fun k =>
          ⟨if k = 0 then .error (.sensor (.exited "reader" (.code 1))) else .ok warm, .ok 0, 0⟩
        accepts := fun _ => true }
    let stream := RandomStream.ofSeed 1
    let s := (initial options stream).afterAll w [.cycle, .cycle]
    Session.start options stream = .ok (initial options stream) ∧
      (∀ step ∈ (initial options stream).run w [.cycle, .cycle], ¬ step.answer.Low) ∧
      w.seen s.polls = [warm] ∧
      s.extremes.voltage.least = Vector.replicate powerChannels 0.0 ∧
      s.extremes ≠ (w.seen s.polls).foldl Extremes.fold .unseen := by
  intro options warm w stream s
  have hstart : Session.start options stream = .ok (initial options stream) :=
    (start_eq_ok_iff options stream _).mpr ⟨by decide, rfl⟩
  have hgood : ∀ k, options.stopsAt w k = false := by
    intro k
    cases k with
    | zero => decide +kernel
    | succ k =>
      have hwarm : w.lastReadings (k + 1 + 1) = warm := rfl
      rw [SessionOptions.stopsAt, SessionOptions.voltsAt, hwarm]
      decide +kernel
  have hseen : w.seen s.polls = [warm] := by
    have hpolls : s.polls = 2 := by decide +kernel
    rw [hpolls]
    rfl
  have hleast : s.extremes.voltage.least = Vector.replicate powerChannels 0.0 := by decide +kernel
  refine ⟨hstart, (reached_initial w options stream).not_low hgood _, hseen, hleast, ?_⟩
  intro heq
  have hfold : ((w.seen s.polls).foldl Extremes.fold .unseen).voltage.least =
      Vector.replicate powerChannels 4.0 := by
    rw [hseen]
    decide +kernel
  rw [← heq, hleast] at hfold
  exact absurd hfold (by decide +kernel)

end Session

end Downlink
