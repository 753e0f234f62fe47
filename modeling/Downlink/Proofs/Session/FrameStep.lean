import Mathlib
import Downlink.Proofs.Encoder.Counters
import Downlink.Proofs.Session.Calls

/-!
# A frame of a session

A frame of a cycle ends in one of three ways: the battery is low, a frame is encoded, or packets are
written. What it is about is in the polls so far and in the calls that were made on the encoder.
-/

namespace Downlink

/-- The readings of the last successful poll among the first `n`, zeros if there is none. -/
def Surroundings.lastReadings (w : Surroundings) : Nat → Readings
  | 0 => .zero
  | n + 1 =>
    match (w.frame n).poll with
    | .ok r => r
    | .error _ => w.lastReadings n

/-- The battery voltage that the frame of the `k`-th poll goes by. -/
def SessionOptions.voltsAt (o : SessionOptions) (w : Surroundings) (k : Nat) : Float32 :=
  (w.lastReadings (k + 1)).batteryVoltage o.board.map

/-- Whether a session stops at the `k`-th poll. -/
def SessionOptions.stopsAt (o : SessionOptions) (w : Surroundings) (k : Nat) : Bool :=
  o.checksBattery && Battery.isLow (o.voltsAt w k) o.board.threshold

/-! ### The encoder of a session -/

namespace Encoder

theorem consistent_ofModulation (m : Modulation) : (Profile.ofModulation m).layout.Consistent :=
  (ofProfile_eq_ok _ _ (ofProfile_ofModulation m)).2

/-- A call that sends the `k`-th frame of a session, counted from one. -/
structure IsFrame (m : Modulation) (k : Nat) (call : Call) : Prop where
  sends : call.sends = true
  fits : call.fits (Profile.ofModulation m).layout = true
  kind : call.header.frameType = (FrameKind.ofNumber m k).code

/-- A frame that fits is not refused, whatever was sent before it. -/
theorem IsFrame.sent_reply {m : Modulation} {k : Nat} {call : Call} (h : IsFrame m k call)
    (done : List Call) : (((start (.ofModulation m)).afterAll done).reply call).sent = true := by
  have hprofile := (start (.ofModulation m)).profile_afterAll done
  have hlayout : ((start (.ofModulation m)).afterAll done).profile.layout.Consistent := by
    rw [hprofile]
    exact consistent_ofModulation m
  rw [Encoder.sent_reply, h.sends, succeeds_reply _ call hlayout, hprofile]
  exact h.fits

theorem sent_replies (m : Modulation) (calls : List Call)
    (h : ∀ k call, calls[k]? = some call → IsFrame m (k + 1) call) :
    ∀ reply ∈ (start (.ofModulation m)).replies calls, reply.sent = true := by
  intro reply hmem
  obtain ⟨k, hk⟩ := List.mem_iff_getElem?.mp hmem
  rw [getElem?_replies, Option.map_eq_some_iff] at hk
  obtain ⟨call, hcall, rfl⟩ := hk
  exact (h k call hcall).sent_reply (calls.take k)

theorem frames_afterAll (m : Modulation) (calls : List Call)
    (h : ∀ k call, calls[k]? = some call → IsFrame m (k + 1) call) :
    ((start (.ofModulation m)).afterAll calls).frames = calls.length := by
  have hrun := (start (.ofModulation m)).run_afterAll calls
  have hall := List.countP_eq_length.mpr (sent_replies m calls h)
  rw [hrun.frames_eq, length_sent_log, hall, length_replies]
  exact Nat.zero_add calls.length

end Encoder

namespace Session

variable {γ : Type}

/-- The call on the encoder that sends the next frame. -/
def nextCall (s : Session γ) (m : Modulation) (e : Encoder) (input : FrameInput) (r : Readings)
    (samples : Array Int16) : Encoder.Call :=
  let kind := FrameKind.ofNumber m (e.frames + 1)
  .append (s.frameHeader e kind input) (s.framePayload e m kind r) samples

theorem isFrame_nextCall (s : Session γ) (m : Modulation) (e : Encoder) (input : FrameInput)
    (r : Readings) (samples : Array Int16) (hprofile : e.profile = .ofModulation m) :
    Encoder.IsFrame m (e.frames + 1) (s.nextCall m e input r samples) := by
  have hmode : e.profile.modeId ≤ 7 := by
    rw [hprofile]
    cases m with
    | fsk => decide
    | bpsk => decide
  have htype : ∀ kind : FrameKind, kind.code ≤ 15 := by
    intro kind
    cases kind <;> decide
  refine ⟨rfl, ?_, rfl⟩
  rw [Encoder.Call.fits, Option.isNone_iff_eq_none, Encoder.misfit?_eq_none_iff, ← hprofile]
  exact ⟨hmode, htype _, Payload.length_encode _ _ _ _ _ _⟩

/-- In a session the encoder refuses no frame. -/
theorem sendFrame_eq (s : Session γ) (m : Modulation) (e : Encoder) (input : FrameInput)
    (r : Readings) (report : CycleReport) (hencoder : s.encoder = some e)
    (hprofile : e.profile = .ofModulation m) :
    let call := s.nextCall m e input r report.samples
    s.sendFrame m input r report =
      (.ok { report with
          samples := (e.reply call).buffer
          headers := report.headers ++ [call.header] },
        { s with
          encoder := some (e.after call)
          antennas := { s.antennas with transmit := true } }) := by
  intro call
  have hlayout : e.profile.layout.Consistent := by
    rw [hprofile]
    exact Encoder.consistent_ofModulation m
  have hfits := (s.isFrame_nextCall m e input r report.samples hprofile).fits
  rw [← hprofile] at hfits
  rcases e.frameOf_cases call.header call.payload hlayout with
    ⟨-, bytes, frame, hframe, -⟩ | ⟨fault, hmisfit, -⟩
  · have happend := e.append_of_frameOf _ _ report.samples bytes frame hframe
    simp only [call, nextCall, Encoder.Call.header, Encoder.Call.payload] at happend
    simp only [sendFrame, hencoder, call, nextCall, Encoder.reply, Encoder.after,
      Encoder.Reply.buffer, Encoder.Call.header, happend]
  · rw [Encoder.Call.fits, hmisfit] at hfits
    exact absurd hfits Bool.false_ne_true

theorem sendText_eq [Generator γ] (s : Session γ) (r : Readings) (report : CycleReport) :
    ∃ packets stream,
      s.sendText r report =
        ({ report with packets := report.packets ++ packets }, { s with stream }) ∧
      packets.length = if s.options.mode = .cw then 1 else 2 := by
  rw [sendText]
  generalize (TextTelemetry.ofReadings r s.options.board.map r.computerTemperature).run s.stream =
    drawn
  refine ⟨_, drawn.2, rfl, ?_⟩
  cases s.options.mode <;> rfl

theorem checkBattery_eq (s : Session γ) (volts : Float32) :
    s.checkBattery volts =
      if s.options.checksBattery && Battery.isLow volts s.options.board.threshold then
        (.error (.batteryLow volts s.options.board.threshold), Battery.shutdownLamps)
      else (.ok (), []) := by
  rw [checkBattery, Battery.check]
  cases s.options.checksBattery with
  | false => rfl
  | true => rfl

/-- The session behind the poll of its next frame. -/
def polled (s : Session γ) (w : Surroundings) : Session γ :=
  { s with polls := s.polls + 1, last := w.lastReadings (s.polls + 1) }

/-- The session that sends its next frame. -/
def noted (s : Session γ) (w : Surroundings) : Session γ :=
  (s.polled w).note (w.lastReadings (s.polls + 1))

/-- A session in which the calls `done` were made on the encoder, each for one frame. -/
structure Reached (w : Surroundings) (options : SessionOptions) (done : List Encoder.Call)
    (s : Session γ) : Prop where
  options_eq : s.options = options
  keyer_eq : s.keyer = .standard
  last_eq : s.last = w.lastReadings s.polls
  encoder_eq : s.encoder =
    options.mode.modulation?.map fun m => (Encoder.start (.ofModulation m)).afterAll done
  frames : ∀ m, options.mode.modulation? = some m →
    ∀ k call, done[k]? = some call → Encoder.IsFrame m (k + 1) call
  no_frames : options.mode.modulation? = none → done = []

theorem reached_initial (w : Surroundings) (options : SessionOptions) (stream : γ) :
    Reached w options [] (initial options stream) where
  options_eq := rfl
  keyer_eq := rfl
  last_eq := rfl
  encoder_eq := rfl
  frames := by
    intro m _ k call h
    exact absurd h (by simp)
  no_frames _ := rfl

section
variable {w : Surroundings} {options : SessionOptions} {done : List Encoder.Call} {s : Session γ}

/-! ### What a frame leaves -/

/-- Where no frame is sent, only the readings have to keep up with the polls. -/
theorem Reached.of_unsent {s' : Session γ} (h : Reached w options done s)
    (hoptions : s'.options = s.options) (hkeyer : s'.keyer = s.keyer)
    (hlast : s'.last = w.lastReadings s'.polls) (hencoder : s'.encoder = s.encoder) :
    Reached w options done s' where
  options_eq := hoptions.trans h.options_eq
  keyer_eq := hkeyer.trans h.keyer_eq
  last_eq := hlast
  encoder_eq := hencoder.trans h.encoder_eq
  frames := h.frames
  no_frames := h.no_frames

theorem Reached.polled (h : Reached w options done s) : Reached w options done (s.polled w) :=
  h.of_unsent rfl rfl rfl rfl

theorem Reached.noted (h : Reached w options done s) (stream : γ) :
    Reached w options done { s.noted w with stream } :=
  h.of_unsent rfl rfl rfl rfl

theorem Reached.sent (h : Reached w options done s) (m : Modulation)
    (hm : options.mode.modulation? = some m) (report : CycleReport) :
    let e := (Encoder.start (.ofModulation m)).afterAll done
    let call := (s.noted w).nextCall m e (w.frame s.polls) (w.lastReadings (s.polls + 1))
      report.samples
    Reached w options (done ++ [call])
      { s.noted w with
        encoder := some (e.after call)
        antennas := { s.antennas with transmit := true } } := by
  intro e call
  -- All calls so far were frames, so that the counter gives the next its number.
  have hcount : e.frames = done.length := Encoder.frames_afterAll m done (h.frames m hm)
  have hcall : Encoder.IsFrame m (done.length + 1) call := by
    rw [← hcount]
    exact isFrame_nextCall _ m e _ _ _ (Encoder.profile_afterAll _ done)
  refine ⟨h.options_eq, h.keyer_eq, rfl, ?_, ?_, ?_⟩
  · rw [hm, Option.map_some, Encoder.afterAll_append]
    rfl
  · intro m' hm' k call' hk
    obtain rfl : m = m' := Option.some.inj (hm.symm.trans hm')
    rw [List.getElem?_append] at hk
    by_cases hold : k < done.length
    · rw [if_pos hold] at hk
      exact h.frames m hm k call' hk
    · rw [if_neg hold, List.getElem?_singleton] at hk
      by_cases hlast : k - done.length = 0
      · rw [if_pos hlast] at hk
        have hnumber : k = done.length := by omega
        rw [← Option.some.inj hk, hnumber]
        exact hcall
      · rw [if_neg hlast] at hk
        exact absurd hk (by simp)
  · intro hnone
    exact absurd (hm.symm.trans hnone) (by simp)

/-! ### How a frame ends -/

theorem Reached.poll_eq (h : Reached w options done s) :
    s.poll (w.frame s.polls) = (w.lastReadings (s.polls + 1), s.polled w) := by
  rw [poll, Session.polled, Surroundings.lastReadings]
  cases (w.frame s.polls).poll with
  | ok r => rfl
  | error fault => rw [← h.last_eq]

variable [Generator γ]

theorem Reached.frame_low (h : Reached w options done s)
    (hlow : options.stopsAt w s.polls = true) (report : CycleReport) :
    s.frame w report =
      ⟨.error (.batteryLow (options.voltsAt w s.polls) options.board.threshold),
        Battery.shutdownLamps.map .lamp, s.polled w⟩ := by
  have hcheck := (s.polled w).checkBattery_eq (options.voltsAt w s.polls)
  have hoptions : (s.polled w).options = options := h.options_eq
  unfold SessionOptions.stopsAt at hlow
  rw [hoptions, hlow, if_pos rfl] at hcheck
  unfold SessionOptions.voltsAt at hcheck ⊢
  simp only [frame, h.poll_eq, hoptions, hcheck]

theorem Reached.frame_good (h : Reached w options done s)
    (hgood : options.stopsAt w s.polls = false) (report : CycleReport) :
    let r := w.lastReadings (s.polls + 1)
    let report := { report with batteryVolts := options.voltsAt w s.polls }
    s.frame w report =
      match options.mode.modulation? with
      | some m =>
        ⟨((s.noted w).sendFrame m (w.frame s.polls) r report).1, [],
          ((s.noted w).sendFrame m (w.frame s.polls) r report).2⟩
      | none =>
        ⟨.ok ((s.noted w).sendText r report).1, [], ((s.noted w).sendText r report).2⟩ := by
  intro r report
  have hcheck := (s.polled w).checkBattery_eq (options.voltsAt w s.polls)
  have hoptions : (s.polled w).options = options := h.options_eq
  have hnoted : ((s.polled w).note (w.lastReadings (s.polls + 1))).options = options :=
    h.options_eq
  unfold SessionOptions.stopsAt at hgood
  rw [hoptions, hgood, if_neg Bool.false_ne_true] at hcheck
  unfold SessionOptions.voltsAt at hcheck
  simp only [frame, h.poll_eq, hoptions, hcheck, hnoted]
  rfl

theorem Reached.frame_encoded (h : Reached w options done s)
    (hgood : options.stopsAt w s.polls = false) (m : Modulation)
    (hm : options.mode.modulation? = some m) (report : CycleReport) :
    let e := (Encoder.start (.ofModulation m)).afterAll done
    let call := (s.noted w).nextCall m e (w.frame s.polls) (w.lastReadings (s.polls + 1))
      report.samples
    s.frame w report =
      ⟨.ok { report with
          batteryVolts := options.voltsAt w s.polls
          samples := (e.reply call).buffer
          headers := report.headers ++ [call.header] },
        [],
        { s.noted w with
          encoder := some (e.after call)
          antennas := { s.antennas with transmit := true } }⟩ := by
  intro e call
  have hencoder : (s.noted w).encoder = some e := by
    show s.encoder = some e
    rw [h.encoder_eq, hm]
    rfl
  have hsend := (s.noted w).sendFrame_eq m e (w.frame s.polls) (w.lastReadings (s.polls + 1))
    { report with batteryVolts := options.voltsAt w s.polls } hencoder
    (Encoder.profile_afterAll _ done)
  have hgood := h.frame_good hgood report
  simp only [hm, hsend] at hgood
  exact hgood

theorem Reached.frame_text (h : Reached w options done s)
    (hgood : options.stopsAt w s.polls = false) (hm : options.mode.modulation? = none)
    (report : CycleReport) :
    ∃ packets stream,
      s.frame w report =
        ⟨.ok { report with
            batteryVolts := options.voltsAt w s.polls
            packets := report.packets ++ packets },
          [], { s.noted w with stream }⟩ ∧
      packets.length = if options.mode = .cw then 1 else 2 := by
  have hoptions : (s.noted w).options = options := h.options_eq
  obtain ⟨packets, stream, hsend, hlength⟩ := (s.noted w).sendText_eq
    (w.lastReadings (s.polls + 1)) { report with batteryVolts := options.voltsAt w s.polls }
  rw [hoptions] at hlength
  have hgood := h.frame_good hgood report
  simp only [hm, hsend] at hgood
  exact ⟨packets, stream, hgood, hlength⟩

end

end Session

end Downlink
