import Mathlib
import Downlink.Proofs.Encoder.Log
import Downlink.Proofs.Frame.Receiver
import Downlink.Proofs.Modulator.Levels

/-!
# Frames read off their levels

An encoder moves its modulator by bits only, so an encoder of a frequency-shift waveform switches
levels throughout. One sample of each bit is enough to read a frame off its samples.
-/

namespace Downlink.Encoder

theorem exists_modulator_after (e : Encoder) (call : Call) :
    ∃ bits out, (e.after call).modulator = (e.modulator.pushBits bits out).1 := by
  rcases hframe : e.frameOf call.header call.payload with fault | ⟨bytes, frame⟩
  · refine ⟨[], #[], ?_⟩
    rw [(e.refused_of_error call fault hframe).2.2, Modulator.pushBits_nil]
  · cases call with
    | build header payload =>
      refine ⟨[], #[], ?_⟩
      rw [after, e.build_of_frameOf header payload bytes frame hframe, Modulator.pushBits_nil]
    | append header payload out =>
      rw [after, e.append_of_frameOf header payload out bytes frame hframe]
      exact ⟨_, _, rfl⟩
    | encode header payload =>
      rw [after, e.encode_of_frameOf header payload bytes frame hframe,
        e.append_of_frameOf header payload #[] bytes frame hframe]
      exact ⟨_, _, rfl⟩

theorem switches_afterAll (w : Waveform) (e : Encoder) (calls : List Call)
    (h : Modulator.Switches w e.modulator) :
    Modulator.Switches w (e.afterAll calls).modulator := by
  induction calls generalizing e with
  | nil => exact h
  | cons call rest ih =>
    obtain ⟨bits, out, hmodulator⟩ := e.exists_modulator_after call
    refine ih (e.after call) ?_
    rw [hmodulator]
    exact h.pushBits bits out

theorem slice_encode (e : Encoder) (header : Header) (payload : List UInt8) (bytes : List UInt8)
    (frame : InterleavedFrame) (hswitches : Modulator.Switches .fsk e.modulator)
    (hframe : e.frameOf header payload = .ok (bytes, frame)) :
    ∃ encoded samples, (e.build header payload).1 = .ok encoded ∧
      (e.encode header payload).1 = .ok samples ∧
      ∀ pick : Nat → Nat, (∀ k, pick k < Waveform.fsk.samplesPerBit) → pick 0 ≠ 0 →
        Waveform.fsk.slice samples pick = airBits e.profile.sync encoded.symbols := by
  rw [e.build_of_frameOf header payload bytes frame hframe,
    e.encode_of_frameOf header payload bytes frame hframe,
    e.append_of_frameOf header payload #[] bytes frame hframe]
  exact ⟨_, _, rfl, rfl, fun pick hpick hfirst => hswitches.slice_pushBits _ pick hpick hfirst⟩

/-- Whatever bits and buffers came before, a sample that a frequency-shift waveform adds hangs on
the bit that it shows, its place in the buffer and the waveform alone. In the built-in waveform it
is above zero for a one and below zero for a zero, at every place but the first. So any one sample
of each bit, but for the first sample of all, gives back the sync word and the symbols of a frame
that was encoded after any calls. -/
theorem levels_show_bits :
    (∀ (w : Waveform) (given : List (Bool × Array Int16)) (bit : Bool) (out : Array Int16) (i : Nat),
      w.modulation = .fsk → out.size ≤ i → i < out.size + w.samplesPerBit →
      (((Modulator.start w).takeBits given).pushBit bit out).2[i]? = some (w.levelSample bit i)) ∧
    (∀ (bit : Bool) (i : Nat), 1 ≤ i →
      (0 < Waveform.fsk.levelSample bit i ↔ bit = true) ∧
      (Waveform.fsk.levelSample bit i < 0 ↔ bit = false)) ∧
    ∀ (p : Profile) (start : Encoder) (calls : List Call) (header : Header) (payload : List UInt8),
      p.waveform = .fsk → ofProfile p = .ok start → header.modeId ≤ 7 → header.frameType ≤ 15 →
      payload.length = p.layout.payloadLength →
      ∃ encoded samples, ((start.afterAll calls).build header payload).1 = .ok encoded ∧
        ((start.afterAll calls).encode header payload).1 = .ok samples ∧
        ∀ pick : Nat → Nat, (∀ k, pick k < 240) → pick 0 ≠ 0 →
          (Waveform.fsk.slice samples pick).take p.sync.width = p.sync.bits ∧
          regroup ((Waveform.fsk.slice samples pick).drop p.sync.width) = encoded.symbols := by
  refine ⟨?_, fun bit i hi => Waveform.sign_levelSample bit i hi, ?_⟩
  · intro w given bit out i hfsk hnew hin
    have hswitches := (Modulator.Switches.start w hfsk).takeBits given
    rw [hswitches.getElem?_pushBit, if_neg (Nat.not_lt.mpr hnew), if_pos hin]
  · intro p start calls header payload hwaveform hstart hmode htype hpayload
    obtain ⟨hprofile, hlayout⟩ := ofProfile_eq_ok p start hstart
    obtain ⟨-, rfl⟩ := (ofProfile_eq_ok_iff p start).mp hstart
    have hlast : ((Encoder.start p).afterAll calls).profile = p := profile_afterAll _ calls
    have hswitches : Modulator.Switches .fsk ((Encoder.start p).afterAll calls).modulator := by
      refine switches_afterAll .fsk (Encoder.start p) calls ?_
      rw [← hwaveform]
      exact Modulator.Switches.start p.waveform (by rw [hwaveform]; rfl)
    obtain ⟨bytes, frame, hframe, -⟩ := ((Encoder.start p).afterAll calls).frameOf_eq_ok header
      payload (by rw [hlast]; exact hlayout) hmode htype (by rw [hlast]; exact hpayload)
    obtain ⟨encoded, samples, hbuild, hencode, hslice⟩ :=
      slice_encode _ header payload bytes frame hswitches hframe
    refine ⟨encoded, samples, hbuild, hencode, fun pick hpick hfirst => ?_⟩
    rw [hslice pick hpick hfirst, hlast, drop_airBits, regroup_flatMap_bits]
    exact ⟨List.take_left' p.sync.length_bits, rfl⟩

theorem levels_show_bits_after_refused_call :
    let calls : List Call := [.append ⟨1, 5, 6, 2⟩ (List.replicate 58 9) #[1, 2, 3],
      .encode ⟨8, 1, 3, 0⟩ (List.replicate 58 2)]
    let header : Header := ⟨7, 100, 12, 1⟩
    let payload : List UInt8 := List.replicate 58 0x55
    Waveform.fsk.levelSample false 300 < 0 ∧
      (((Modulator.start .fsk).takeBits [(true, #[]), (false, #[1, 2])]).pushBit true #[3]).2[4]? =
        some (Waveform.fsk.levelSample true 4) ∧
      ofProfile .fsk = .ok (start .fsk) ∧
      ∃ encoded samples, (((start .fsk).afterAll calls).build header payload).1 = .ok encoded ∧
        (((start .fsk).afterAll calls).encode header payload).1 = .ok samples ∧
        (Waveform.fsk.slice samples fun k => 239 - k % 200).take 10 = SyncWord.fsk.bits ∧
        regroup ((Waveform.fsk.slice samples fun k => 239 - k % 200).drop 10) =
          encoded.symbols := by
  intro calls header payload
  have hstart : ofProfile .fsk = .ok (start .fsk) := ofProfile_ofModulation .fsk
  obtain ⟨hplace, hsign, hframes⟩ := levels_show_bits
  obtain ⟨encoded, samples, hbuild, hencode, hread⟩ := hframes .fsk (start .fsk) calls header payload
    rfl hstart (by decide) (by decide) List.length_replicate
  obtain ⟨hsync, hsymbols⟩ := hread (fun k => 239 - k % 200) (fun k => by omega) (by decide)
  exact ⟨(hsign false 300 (by decide)).2.mpr rfl,
    hplace .fsk [(true, #[]), (false, #[1, 2])] true #[3] 4 rfl (by decide) (by decide), hstart,
    encoded, samples, hbuild, hencode, hsync, hsymbols⟩

end Downlink.Encoder
