import Mathlib
import Downlink.Proofs.Session.FrameStep

/-!
# The frames of a cycle

Frame after frame adds to the report of a cycle, up to the first that meets a low battery. Each
makes at most one call on the encoder, and these calls are the frames of the session.
-/

namespace Downlink

namespace Session

variable {γ : Type} [Generator γ]

/-- The calls that the next frame makes on the encoder. -/
def frameCalls (s : Session γ) (w : Surroundings) (report : CycleReport) : List Encoder.Call :=
  match s.options.mode.modulation?, s.encoder with
  | some m, some e =>
    if s.options.stopsAt w s.polls then []
    else
      [(s.noted w).nextCall m e (w.frame s.polls) (w.lastReadings (s.polls + 1)) report.samples]
  | _, _ => []

/-- The calls that the next `n` frames of a cycle make on the encoder, up to one that fails. -/
def framesCalls (w : Surroundings) : Nat → Session γ → CycleReport → List Encoder.Call
  | 0, _, _ => []
  | n + 1, s, report =>
    s.frameCalls w report ++
      match s.frame w report with
      | ⟨.error _, _, _⟩ => []
      | ⟨.ok next, _, s⟩ => framesCalls w n s next

end Session

/-! ### What a frame adds in each mode -/

namespace Mode

/-- How many frames of a cycle go on air for each poll. -/
def frameCount (mode : Mode) : Nat := mode.modulation?.elim 0 fun _ => 1

/-- In Morse code there are no samples before the cycle is over. -/
def frameSamples (mode : Mode) : Nat :=
  mode.modulation?.elim 0 fun m => (Profile.ofModulation m).frameSamples

/-- How many packets are written for each poll. -/
def framePackets : Mode → Nat
  | fsk => 0
  | bpsk => 0
  | afsk => 2
  | cw => 1

theorem framePackets_of_none (mode : Mode) (h : mode.modulation? = none) :
    mode.framePackets = if mode = .cw then 1 else 2 := by
  cases mode with
  | fsk => exact absurd h (by decide)
  | bpsk => exact absurd h (by decide)
  | afsk => rfl
  | cw => rfl

theorem framePackets_of_some (mode : Mode) (m : Modulation) (h : mode.modulation? = some m) :
    mode.framePackets = 0 := by
  cases mode with
  | fsk => rfl
  | bpsk => rfl
  | afsk => exact absurd h (by simp [modulation?])
  | cw => exact absurd h (by simp [modulation?])

end Mode

namespace Session

variable {γ : Type} [Generator γ]

/-- `n` frames that make some calls on the encoder add to a report. -/
structure Adds (mode : Mode) (n : Nat) (made : List Encoder.Call) (report next : CycleReport) :
    Prop where
  headers_eq : next.headers = report.headers ++ made.map Encoder.Call.header
  length_made : made.length = n * mode.frameCount
  length_packets : next.packets.length = report.packets.length + n * mode.framePackets
  size_samples : next.samples.size = report.samples.size + n * mode.frameSamples

theorem Adds.refl (mode : Mode) (report : CycleReport) : Adds mode 0 [] report report where
  headers_eq := (List.append_nil report.headers).symm
  length_made := (Nat.zero_mul mode.frameCount).symm
  length_packets := by rw [Nat.zero_mul, Nat.add_zero]
  size_samples := by rw [Nat.zero_mul, Nat.add_zero]

theorem Adds.trans {mode : Mode} {k n : Nat} {xs ys : List Encoder.Call}
    {report mid next : CycleReport} (hx : Adds mode k xs report mid) (hy : Adds mode n ys mid next) :
    Adds mode (n + k) (xs ++ ys) report next where
  headers_eq := by
    rw [hy.headers_eq, hx.headers_eq, List.map_append, List.append_assoc]
  length_made := by
    rw [List.length_append, hx.length_made, hy.length_made, Nat.add_mul, Nat.add_comm]
  length_packets := by
    rw [hy.length_packets, hx.length_packets, Nat.add_mul]
    omega
  size_samples := by
    rw [hy.size_samples, hx.size_samples, Nat.add_mul]
    omega

section
variable {w : Surroundings} {options : SessionOptions} {done : List Encoder.Call} {s : Session γ}

theorem size_reply (m : Modulation) (k : Nat) (call : Encoder.Call)
    (hcall : Encoder.IsFrame m k call) :
    let e := (Encoder.start (.ofModulation m)).afterAll done
    (e.reply call).buffer.size = call.buffer.size + (Profile.ofModulation m).frameSamples := by
  intro e
  have hrun := (Encoder.start (.ofModulation m)).run_afterAll done
  have hprofile : e.profile = .ofModulation m := hrun.profile_eq
  have hwaveform : e.modulator.waveform = e.profile.waveform := by
    rw [hrun.waveform_eq, hprofile]
    rfl
  have hlayout : e.profile.layout.Consistent := by
    rw [hprofile]
    exact Encoder.consistent_ofModulation m
  rw [e.size_buffer_reply call hlayout hwaveform, hcall.sent_reply done, if_pos rfl, hprofile]

/-- A frame of a session fails with a low battery, or adds to the report. -/
theorem Reached.frame_cases (h : Reached w options done s) (report : CycleReport) :
    (options.stopsAt w s.polls = true ∧ s.frameCalls w report = [] ∧
      s.frame w report =
        ⟨.error (.batteryLow (options.voltsAt w s.polls) options.board.threshold),
          Battery.shutdownLamps.map .lamp, s.polled w⟩) ∨
    (options.stopsAt w s.polls = false ∧
      ∃ next s', s.frame w report = ⟨.ok next, [], s'⟩ ∧ s'.polls = s.polls + 1 ∧
        Reached w options (done ++ s.frameCalls w report) s' ∧
        Adds options.mode 1 (s.frameCalls w report) report next) := by
  have hoptions := h.options_eq
  cases hstops : options.stopsAt w s.polls with
  | true =>
    refine Or.inl ⟨rfl, ?_, h.frame_low hstops report⟩
    rw [frameCalls, hoptions]
    cases options.mode.modulation? with
    | none => rfl
    | some m =>
      cases s.encoder with
      | none => rfl
      | some e => exact if_pos hstops
  | false =>
    refine Or.inr ⟨rfl, ?_⟩
    cases hm : options.mode.modulation? with
    | none =>
      have hcalls : s.frameCalls w report = [] := by
        rw [frameCalls, hoptions, hm]
      obtain ⟨packets, stream, hframe, hlength⟩ := h.frame_text hstops hm report
      rw [hcalls, List.append_nil]
      refine ⟨_, _, hframe, rfl, h.noted stream, ?_⟩
      constructor
      · rw [List.map_nil, List.append_nil]
      · rw [Mode.frameCount, hm]
        rfl
      · rw [Mode.framePackets_of_none _ hm, List.length_append, hlength, Nat.one_mul]
      · rw [Mode.frameSamples, hm]
        rfl
    | some m =>
      have hencoder : s.encoder = some ((Encoder.start (.ofModulation m)).afterAll done) := by
        rw [h.encoder_eq, hm]
        rfl
      let call := (s.noted w).nextCall m ((Encoder.start (.ofModulation m)).afterAll done)
        (w.frame s.polls) (w.lastReadings (s.polls + 1)) report.samples
      have hcalls : s.frameCalls w report = [call] := by
        rw [frameCalls, hoptions, hm, hencoder]
        exact if_neg (by rw [hstops]; exact Bool.false_ne_true)
      have hcall : Encoder.IsFrame m _ call :=
        isFrame_nextCall _ m _ _ _ _ (Encoder.profile_afterAll _ done)
      rw [hcalls]
      refine ⟨_, _, h.frame_encoded hstops m hm report, rfl, h.sent m hm report, ?_⟩
      constructor
      · rfl
      · rw [Mode.frameCount, hm]
        rfl
      · rw [Mode.framePackets_of_some _ m hm]
        rfl
      · rw [Mode.frameSamples, hm, Nat.one_mul]
        exact size_reply m _ call hcall

/-- The next `n` frames stop at the first poll with a low battery, or add to the report. -/
theorem Reached.frames_cases (h : Reached w options done s) (n : Nat) (report : CycleReport) :
    (∃ k < n, (∀ i < k, options.stopsAt w (s.polls + i) = false) ∧
      options.stopsAt w (s.polls + k) = true ∧
      ∃ s', Session.frames w n s report =
          ⟨.error (.batteryLow (options.voltsAt w (s.polls + k)) options.board.threshold),
            Battery.shutdownLamps.map .lamp, s'⟩ ∧
        Reached w options (done ++ framesCalls w n s report) s') ∨
    ((∀ i < n, options.stopsAt w (s.polls + i) = false) ∧
      ∃ next s', Session.frames w n s report = ⟨.ok next, [], s'⟩ ∧
        Reached w options (done ++ framesCalls w n s report) s' ∧
        Adds options.mode n (framesCalls w n s report) report next) := by
  induction n generalizing done s report with
  | zero =>
    refine Or.inr ⟨fun i hi => absurd hi (Nat.not_lt_zero i), report, s, rfl, ?_,
      Adds.refl options.mode report⟩
    rw [framesCalls, List.append_nil]
    exact h
  | succ n ih =>
    rcases h.frame_cases report with
      ⟨hstops, hcalls, hframe⟩ | ⟨hgood, next, s', hframe, hpolls, hreached, hadds⟩
    · refine Or.inl ⟨0, Nat.succ_pos n, fun i hi => absurd hi (Nat.not_lt_zero i), hstops,
        s.polled w, ?_, ?_⟩
      · rw [Session.frames, hframe]
        rfl
      · rw [framesCalls, hcalls, hframe, List.append_nil, List.append_nil]
        exact h.polled
    · have hcalls : framesCalls w (n + 1) s report =
          s.frameCalls w report ++ framesCalls w n s' next := by
        rw [framesCalls, hframe]
      -- The polls of the rest are those of the cycle, one further on.
      have hshift : ∀ i, s'.polls + i = s.polls + (i + 1) := by
        intro i
        omega
      have hfront : ∀ k, (∀ i < k, options.stopsAt w (s'.polls + i) = false) →
          ∀ i < k + 1, options.stopsAt w (s.polls + i) = false := by
        intro k hrest i hi
        cases i with
        | zero => exact hgood
        | succ i =>
          rw [← hshift]
          exact hrest i (Nat.lt_of_succ_lt_succ hi)
      rw [hcalls, ← List.append_assoc, Session.frames, hframe]
      rcases ih hreached next with
        ⟨k, hk, hrest, hstops, s'', hframes, hlast⟩ | ⟨hrest, last, s'', hframes, hlast, hmore⟩
      · rw [hshift] at hstops hframes
        exact Or.inl ⟨k + 1, Nat.succ_lt_succ hk, hfront k hrest, hstops, s'',
          by simp only [hframes, List.nil_append], hlast⟩
      · exact Or.inr ⟨hfront n hrest, last, s'', by simp only [hframes, List.nil_append], hlast,
          hadds.trans hmore⟩

end

end Session

end Downlink
