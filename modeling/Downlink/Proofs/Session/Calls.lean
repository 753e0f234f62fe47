import Mathlib
import Downlink.Proofs.Encoder.Session
import Downlink.Session

/-!
# Calls on a session

A session answers two calls, in any order and as often as one likes: to identify itself and to run a
cycle. Each gives an answer, does something to the world and leaves the session for the next.
-/

namespace Downlink.Session

variable {γ : Type}

/-! ### The start of a session -/

theorem encoderOf_eq (mode : Mode) :
    encoderOf mode = .ok (mode.modulation?.map fun m => .start (.ofModulation m)) := by
  rw [encoderOf]
  cases mode.modulation? with
  | none => rfl
  | some m =>
    show (Encoder.ofProfile (.ofModulation m)).map some = _
    rw [Encoder.ofProfile_ofModulation]
    rfl

/-- A session before its first call. -/
def initial (options : SessionOptions) (stream : γ) : Session γ :=
  { options
    encoder := options.mode.modulation?.map fun m => .start (.ofModulation m)
    keyer := .standard
    extremes := .unseen
    health := .initial
    antennas := .stowed
    last := .zero
    stream
    cycles := 0
    polls := 0
    deliveries := 0 }

theorem start_eq_ok_iff (options : SessionOptions) (stream : γ) (s : Session γ) :
    start options stream = .ok s ↔ options.framesPerCycle ≠ 0 ∧ s = initial options stream := by
  rw [start, encoderOf_eq]
  by_cases hempty : options.framesPerCycle = 0
  · rw [if_pos hempty]
    exact iff_of_false (by simp [bind, Except.bind, throw, throwThe, MonadExceptOf.throw])
      fun h => h.1 hempty
  · rw [if_neg hempty]
    exact ⟨fun h => ⟨hempty, (Except.ok.inj h).symm⟩, fun h => congrArg Except.ok h.2.symm⟩

/-! ### Calls -/

variable [Generator γ]

/-- What a session can be asked for. -/
inductive Call where
  | identify
  | cycle

/-- The answer to a call: the samples of the callsign, or the report of a cycle. -/
inductive Reply where
  | identified (samples : Option (Array Int16))
  | cycled (result : Except Error CycleReport)

/-- Makes a call. -/
def call (s : Session γ) (w : Surroundings) : Call → SessionStep γ Reply
  | .identify =>
    let step := s.identify w
    ⟨.identified step.answer, step.events, step.session⟩
  | .cycle =>
    let step := s.cycle w
    ⟨.cycled step.answer, step.events, step.session⟩

/-- Makes calls one after the other, each on the session that the one before has left. -/
def run (s : Session γ) (w : Surroundings) : List Call → List (SessionStep γ Reply)
  | [] => []
  | call :: rest => s.call w call :: (s.call w call).session.run w rest

/-- The session that calls leave. -/
def afterAll (s : Session γ) (w : Surroundings) : List Call → Session γ
  | [] => s
  | call :: rest => (s.call w call).session.afterAll w rest

end Downlink.Session
