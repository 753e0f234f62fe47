import Mathlib
import Downlink.Proofs.Session.Cycles
import Downlink.RandomStream

/-!
# What cycles report

The frames of a session are numbered through, whatever becomes of the cycles they belong to. A
report has the frames or the packets of its own cycle only.
-/

namespace Downlink

theorem FrameKind.code_ofNumber (m : Modulation) (n : Nat) :
    (FrameKind.ofNumber m n).code =
      if m = .fsk ∧ n % 8 = 0 then 3 else if m = .fsk ∧ n % 8 = 4 then 2 else 1 := by
  cases m with
  | bpsk => rfl
  | fsk =>
    have hhalf : (n + 4) % 8 = 0 ↔ n % 8 = 4 := by omega
    simp only [ofNumber, hhalf, true_and]
    split
    · rfl
    · split
      · rfl
      · rfl

namespace Session

variable {γ : Type}

section
variable {w : Surroundings} {options : SessionOptions} {done made : List Encoder.Call}
  {s : Session γ} {report : CycleReport}

theorem Reached.framesSent_eq (h : Reached w options done s) : s.framesSent = done.length := by
  rw [framesSent, h.encoder_eq]
  cases hm : options.mode.modulation? with
  | none =>
    rw [h.no_frames hm]
    rfl
  | some m => exact Encoder.frames_afterAll m done (h.frames m hm)

theorem Reached.reports [Generator γ] (h : Reached w options done s)
    (hok : (s.cycle w).answer = .ok report) :
    Reports options (s.cycleCalls w) report := by
  rcases h.cycle_cases.2 with ⟨k, -, -, -, hfault⟩ | ⟨-, next, hanswer, hreports⟩
  · exact absurd (hok.symm.trans hfault) (by simp)
  · rw [Except.ok.inj (hok.symm.trans hanswer)]
    exact hreports

theorem Reports.frames (h : Reports options made report) (m : Modulation)
    (hm : options.mode.modulation? = some m) :
    report.headers.length = options.framesPerCycle ∧ report.packets = [] ∧
      report.samples.size = options.framesPerCycle * (Profile.ofModulation m).frameSamples := by
  have hlength := h.length_made
  have hpackets := h.length_packets
  have hmode : options.mode ≠ .cw := by
    intro hmode
    rw [hmode] at hm
    exact absurd hm (by simp [Mode.modulation?])
  rw [Mode.frameCount, hm, Option.elim_some, Nat.mul_one] at hlength
  rw [Mode.framePackets_of_some _ m hm, Nat.mul_zero] at hpackets
  refine ⟨?_, List.eq_nil_of_length_eq_zero hpackets, ?_⟩
  · rw [h.headers_eq, List.length_map, hlength]
  · rw [h.size_samples hmode, Mode.frameSamples, hm, Option.elim_some]

theorem Reports.morse (h : Reports options made report) (hmode : options.mode = .cw) :
    report.packets.length = options.framesPerCycle ∧
      report.samples = Keyer.standard.key (" ".intercalate report.packets) := by
  have hpackets := h.length_packets
  rw [hmode, Mode.framePackets, Nat.mul_one] at hpackets
  exact ⟨hpackets, h.samples_keyed hmode⟩

theorem Reports.packets (h : Reports options made report) (hmode : options.mode = .afsk) :
    report.packets.length = 2 * options.framesPerCycle ∧ report.samples = #[] ∧
      report.delivered = false := by
  have hpackets := h.length_packets
  have hsize := h.size_samples (by rw [hmode]; decide)
  rw [hmode, Mode.framePackets, Nat.mul_comm] at hpackets
  rw [hmode, Mode.frameSamples, Mode.modulation?, Option.elim_none, Nat.mul_zero] at hsize
  have hnone := Array.eq_empty_of_size_eq_zero hsize
  exact ⟨hpackets, hnone, h.not_delivered hnone⟩

end

/-- After any calls on a new session, those included whose cycle a low battery ended, the encoder
has put one frame on air for each of the calls `encoded`, and the `k`-th of them, counted from one,
has the frame type of its number. A cycle that succeeds adds its frames behind them and reports
their headers and samples; one of a mode that sends text reports packets, and sends no frames. -/
theorem frames_numbered_across_cycles [Generator γ] (w : Surroundings)
    (options : SessionOptions) (stream : γ) (start : Session γ)
    (hstart : Session.start options stream = .ok start) (calls : List Call) :
    let s := start.afterAll w calls
    let n := options.framesPerCycle
    let encoded := start.encoderCalls w calls
    (∀ m, options.mode.modulation? = some m →
      s.encoder = some ((Encoder.start (.ofModulation m)).afterAll encoded) ∧
      (∀ reply ∈ (Encoder.start (.ofModulation m)).replies encoded, reply.sent = true) ∧
      s.framesSent = encoded.length ∧
      (∀ k call, encoded[k]? = some call → call.header.frameType =
        if m = .fsk ∧ (k + 1) % 8 = 0 then 3 else if m = .fsk ∧ (k + 1) % 8 = 4 then 2 else 1) ∧
      ∀ report, (s.cycle w).answer = .ok report →
        report.headers.length = n ∧ report.packets = [] ∧
        report.samples.size = n * (Profile.ofModulation m).frameSamples ∧
        (start.encoderCalls w (calls ++ [.cycle])).map Encoder.Call.header =
          encoded.map Encoder.Call.header ++ report.headers) ∧
    (options.mode.modulation? = none → s.framesSent = 0) ∧
    (options.mode = .cw → ∀ report, (s.cycle w).answer = .ok report →
      report.packets.length = n ∧
      report.samples = Keyer.standard.key (" ".intercalate report.packets)) ∧
    (options.mode = .afsk → ∀ report, (s.cycle w).answer = .ok report →
      report.packets.length = 2 * n ∧ report.samples = #[] ∧ report.delivered = false) := by
  intro s n encoded
  have hreached : Reached w options encoded s :=
    reached_of_start w options stream start hstart calls
  refine ⟨?_, ?_, ?_, ?_⟩
  · intro m hm
    have hframes := hreached.frames m hm
    have hencoder := hreached.encoder_eq
    rw [hm, Option.map_some] at hencoder
    refine ⟨hencoder, Encoder.sent_replies m encoded hframes, hreached.framesSent_eq, ?_, ?_⟩
    · intro k call hcall
      rw [(hframes k call hcall).kind, FrameKind.code_ofNumber]
    · intro report hok
      have hreports := hreached.reports hok
      obtain ⟨hheaders, hpackets, hsamples⟩ := hreports.frames m hm
      refine ⟨hheaders, hpackets, hsamples, ?_⟩
      have hcalls : start.encoderCalls w (calls ++ [.cycle]) = encoded ++ s.cycleCalls w := by
        rw [encoderCalls_append, encoderCalls, encoderCalls, List.append_nil]
      rw [hcalls, List.map_append, hreports.headers_eq]
  · intro hm
    rw [hreached.framesSent_eq, hreached.no_frames hm]
    rfl
  · intro hmode report hok
    exact (hreached.reports hok).morse hmode
  · intro hmode report hok
    exact (hreached.reports hok).packets hmode

theorem frames_numbered_across_cycles_failed_between :
    let options : SessionOptions := ⟨.fsk, Board.vb5, .initial, 2, false, true⟩
    let flat : Readings := { Readings.zero with voltage := Vector.replicate powerChannels 2.5 }
    let w : Surroundings :=
      { frame := fun k => ⟨.ok (if k = 1 then flat else .zero), .ok 0, 0⟩, accepts := fun _ => true }
    let stream := RandomStream.ofSeed 1
    let s := (initial options stream).afterAll w [.cycle]
    Session.start options stream = .ok (initial options stream) ∧ s.framesSent = 1 ∧
      ∃ report, (s.cycle w).answer = .ok report ∧ report.headers.length = 2 ∧
        ((initial options stream).encoderCalls w [.cycle, .cycle]).length = 3 := by
  intro options flat w stream s
  have hstart : Session.start options stream = .ok (initial options stream) :=
    (start_eq_ok_iff options stream _).mpr ⟨by decide, rfl⟩
  -- The second of the four polls finds the battery low, so that the first cycle stops at one frame.
  have hsent : s.framesSent = 1 := by decide +kernel
  have hpolls : s.polls = 2 := by decide +kernel
  have hgood : ∀ k < 2, options.stopsAt w (2 + k) = false := by decide +kernel
  have hreached := reached_of_start w options stream _ hstart [.cycle]
  obtain ⟨hframes, -⟩ :=
    frames_numbered_across_cycles w options stream (initial options stream) hstart [.cycle]
  obtain ⟨-, -, hlength, -, hreports⟩ := hframes .fsk rfl
  rcases hreached.cycle_cases.2 with ⟨k, hk, -, hstop, -⟩ | ⟨-, report, hok, -⟩
  · have hstop : options.stopsAt w (s.polls + k) = true := hstop
    rw [hpolls, hgood k hk] at hstop
    exact absurd hstop Bool.false_ne_true
  · obtain ⟨hheaders, -, -, hcalls⟩ := hreports report hok
    have hcount := congrArg List.length hcalls
    rw [List.length_map, List.length_append, List.length_map, hheaders, ← hlength] at hcount
    have hsent : ((initial options stream).afterAll w [.cycle]).framesSent = 1 := hsent
    rw [hsent] at hcount
    exact ⟨hstart, hsent, report, hok, hheaders, hcount⟩

end Session

end Downlink
