import Mathlib
import Downlink.Encoder
import Downlink.Proofs.Frame.HeaderFields
import Downlink.Proofs.Frame.Interleaving

/-!
# Encoder sessions

A session is a list of calls on one encoder, in any order and with any arguments. Its profile stays
as it was at the start, so that a frame with fields and a payload that fit is encoded after any
calls.
-/

namespace Downlink.Encoder

/-- A call on an encoder. -/
inductive Call where
  | build (header : Header) (payload : List UInt8)
  | append (header : Header) (payload : List UInt8) (out : Array Int16)
  | encode (header : Header) (payload : List UInt8)

/-- The encoder after a call. -/
def after (e : Encoder) : Call → Encoder
  | .build header payload => (e.build header payload).2
  | .append header payload out => (e.append header payload out).2.1
  | .encode header payload => (e.encode header payload).2

/-- The encoder after a list of calls. -/
def afterAll (e : Encoder) (calls : List Call) : Encoder := calls.foldl after e

/-! ### The profile of a session -/

theorem profile_build (e : Encoder) (header : Header) (payload : List UInt8) :
    (e.build header payload).2.profile = e.profile := by
  rw [build]
  cases e.frameOf header payload with
  | error fault => rfl
  | ok stages => rfl

theorem profile_append (e : Encoder) (header : Header) (payload : List UInt8) (out : Array Int16) :
    (e.append header payload out).2.1.profile = e.profile := by
  have hbuild := e.profile_build header payload
  rw [append]
  rcases hresult : e.build header payload with ⟨result, next⟩
  rw [hresult] at hbuild
  cases result with
  | error fault => exact hbuild
  | ok encoded => exact hbuild

theorem profile_encode (e : Encoder) (header : Header) (payload : List UInt8) :
    (e.encode header payload).2.profile = e.profile := by
  have happend := e.profile_append header payload #[]
  rw [encode]
  rcases hresult : e.append header payload #[] with ⟨result, next, out⟩
  rw [hresult] at happend
  cases result with
  | error fault => exact happend
  | ok encoded => exact happend

theorem profile_after (e : Encoder) (call : Call) : (e.after call).profile = e.profile := by
  cases call with
  | build header payload => exact e.profile_build header payload
  | append header payload out => exact e.profile_append header payload out
  | encode header payload => exact e.profile_encode header payload

theorem profile_afterAll (e : Encoder) (calls : List Call) :
    (e.afterAll calls).profile = e.profile := by
  induction calls generalizing e with
  | nil => rfl
  | cons call rest ih =>
    rw [afterAll, List.foldl_cons]
    exact (ih (e.after call)).trans (e.profile_after call)

theorem ofProfile_eq_ok_iff (p : Profile) (e : Encoder) :
    ofProfile p = .ok e ↔ p.validate = .ok () ∧ e = start p := by
  rw [ofProfile]
  cases p.validate with
  | error fault => exact iff_of_false (by simp) (by simp)
  | ok => exact ⟨fun h => ⟨rfl, (Except.ok.inj h).symm⟩, fun h => congrArg Except.ok h.2.symm⟩

theorem ofProfile_eq_ok (p : Profile) (e : Encoder) (h : ofProfile p = .ok e) :
    e.profile = p ∧ p.layout.Consistent := by
  obtain ⟨hvalid, rfl⟩ := (ofProfile_eq_ok_iff p e).mp h
  refine ⟨rfl, (p.layout.validate_eq_ok_iff).mp ?_⟩
  cases hlayout : p.layout.validate with
  | ok => rfl
  | error fault =>
    rw [Profile.validate, hlayout] at hvalid
    exact absurd hvalid (by simp [bind, Except.bind])

/-! ### Sessions of the built-in profiles -/

theorem validate_waveform_ofModulation (m : Modulation) :
    (Profile.ofModulation m).waveform.validate = .ok () := by
  have hnone : (Profile.ofModulation m).waveform.fault?.isNone = true := by
    cases m with
    | fsk => decide +kernel
    | bpsk => decide +kernel
  rw [Waveform.validate, Option.isNone_iff_eq_none.mp hnone]

theorem ofProfile_ofModulation (m : Modulation) :
    ofProfile (.ofModulation m) = .ok (start (.ofModulation m)) := by
  have hvalid : (Profile.ofModulation m).validate = .ok () := by
    rw [Profile.validate, validate_waveform_ofModulation m]
    cases m with
    | fsk => rfl
    | bpsk => rfl
  rw [ofProfile, hvalid]

/-! ### Frames that are encoded -/

theorem frameOf_eq_ok (e : Encoder) (header : Header) (payload : List UInt8)
    (hlayout : e.profile.layout.Consistent) (hmode : header.modeId ≤ 7)
    (htype : header.frameType ≤ 15) (hpayload : payload.length = e.profile.layout.payloadLength) :
    ∃ bytes frame, e.frameOf header payload = .ok (bytes, frame) ∧
      bytes.length = e.profile.layout.headerLength ∧
      Header.decode bytes = .ok header.wrapped ∧
      frame.Carries e.profile.layout bytes payload := by
  obtain ⟨bytes, hencode, hlen, hdecode⟩ :=
    header.exists_encode_eq_ok e.profile.layout hlayout hmode htype
  have hinterleave := e.profile.layout.interleave_eq_ok bytes payload hlayout hlen hpayload
  refine ⟨bytes, _, ?_, hlen, hdecode,
    e.profile.layout.carries_of_interleave bytes payload _ hlayout hlen hpayload hinterleave⟩
  rw [frameOf, hencode]
  simp only [bind, Except.bind, hinterleave]
  rfl

theorem append_of_frameOf (e : Encoder) (header : Header) (payload : List UInt8)
    (out : Array Int16) (bytes : List UInt8) (frame : InterleavedFrame)
    (h : e.frameOf header payload = .ok (bytes, frame)) :
    let stream := frame.symbols e.profile.layout.endFlag e.disparity
    let pushed := e.modulator.pushBits (airBits e.profile.sync stream.symbols.toList) out
    e.append header payload out =
      (.ok ⟨bytes, frame, stream.symbols.toList⟩,
        { e with disparity := stream.disparity, modulator := pushed.1, frames := e.frames + 1 },
        pushed.2) := by
  rw [append, build, h]
  rfl

end Downlink.Encoder
