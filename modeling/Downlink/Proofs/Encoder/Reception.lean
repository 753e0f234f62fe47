import Mathlib
import Downlink.Proofs.Encoder.Session
import Downlink.Proofs.Frame.Receiver

/-!
# Frames on air determine what they carry

After any calls, the bits that an encoder hands to its modulator are enough to read the frame back.
-/

namespace Downlink.Encoder

/-- Whatever was encoded before, the bits of a frame on air determine it: a receiver that knows
the layout and the sync word reads the header bytes, the copies of the payload, 32 parity bytes for
each sub-frame, with which its bytes have no syndrome, and the flag if there is one. -/
theorem received_frame_after_calls (p : Profile) (start : Encoder) (calls : List Call)
    (header : Header) (payload : List UInt8) (out : Array Int16)
    (hstart : ofProfile p = .ok start) (hcopies : 1 ≤ p.layout.copies)
    (hmode : header.modeId ≤ 7) (htype : header.frameType ≤ 15)
    (hpayload : payload.length = p.layout.payloadLength) :
    ∃ encoded next samples received,
      (start.afterAll calls).append header payload out = (.ok encoded, next, samples) ∧
      (next.modulator, samples) =
        (start.afterAll calls).modulator.pushBits (airBits p.sync encoded.symbols) out ∧
      receive? p.layout p.sync (airBits p.sync encoded.symbols) = some received ∧
      received.written = encoded.header ++ (List.replicate p.layout.copies payload).flatten ∧
      encoded.header.length = p.layout.headerLength ∧
      (received.written.drop p.layout.headerLength).take p.layout.payloadLength = payload ∧
      Header.decode (received.written.take p.layout.headerLength) =
        .ok { header with uptime := header.uptime % 2 ^ 25 } ∧
      received.parity.length = p.layout.subFrames ∧
      received.parity = encoded.frame.parity.map Vector.toList ∧
      (∀ (s : Nat) (parity : List UInt8), received.parity[s]? = some parity →
        parity.length = 32 ∧
        syndromes (bytesOf p.layout.slots received.written s ++ parity) = List.replicate 32 0) ∧
      received.trailer = if p.layout.endFlag then [.endOfFrame] else [] := by
  obtain ⟨hprofile, hlayout⟩ := ofProfile_eq_ok p start hstart
  generalize he : start.afterAll calls = e
  have hp : e.profile = p := by rw [← he, profile_afterAll, hprofile]
  obtain ⟨bytes, frame, hframe, hlen, hdecode, hcarries⟩ :=
    e.frameOf_eq_ok header payload (hp ▸ hlayout) hmode htype (hp ▸ hpayload)
  have happend := e.append_of_frameOf header payload out bytes frame hframe
  rw [hp] at hlen hcarries happend
  have hwritten := p.layout.length_written bytes payload frame hlayout hcarries
  have hheader := p.layout.take_written bytes payload frame hlen hcarries
  have hcopy := p.layout.take_drop_written bytes payload frame hlen hpayload hcopies hcarries
  have hreceive :=
    receive?_airBits p.layout p.sync frame e.disparity hwritten hcarries.length_parity
  refine ⟨_, _, _, _, happend, rfl, hreceive, hcarries.written_eq, hlen, hcopy, ?_, ?_, rfl, ?_,
    rfl⟩
  · rw [hheader, hdecode]
    rfl
  · rw [List.length_map, hcarries.length_parity]
  · intro s parity hs
    rw [List.getElem?_map, Option.map_eq_some_iff] at hs
    obtain ⟨q, hq, rfl⟩ := hs
    exact ⟨length_toList_parity q,
      p.layout.syndromes_subFrame bytes payload frame hlayout hcarries s q hq⟩

theorem received_frame_after_refused_call :
    let calls : List Call :=
      [.build ⟨0, 1, 2, 0⟩ (List.replicate 78 1), .encode ⟨8, 1, 3, 0⟩ (List.replicate 78 2)]
    let header : Header := ⟨3, 7, 0x2000001, 9⟩
    let payload : List UInt8 := List.replicate 78 0x55
    ofProfile .bpsk = .ok (start .bpsk) ∧ 1 ≤ Layout.bpsk.copies ∧ header.modeId ≤ 7 ∧
      header.frameType ≤ 15 ∧ payload.length = Layout.bpsk.payloadLength ∧
      ∃ encoded next samples received,
        ((start .bpsk).afterAll calls).append header payload #[] = (.ok encoded, next, samples) ∧
        receive? .bpsk .bpsk (airBits .bpsk encoded.symbols) = some received ∧
        received.written = encoded.header ++ (List.replicate 6 payload).flatten ∧
        Header.decode (received.written.take 8) = .ok ⟨3, 7, 1, 9⟩ ∧
        received.parity.length = 3 ∧ received.trailer = [] := by
  intro calls header payload
  have hstart : ofProfile .bpsk = .ok (start .bpsk) := ofProfile_ofModulation .bpsk
  have hcopies : 1 ≤ Layout.bpsk.copies := by decide
  have hmode : header.modeId ≤ 7 := by decide
  have htype : header.frameType ≤ 15 := by decide
  have hpayload : payload.length = Layout.bpsk.payloadLength := List.length_replicate
  have hwrapped : { header with uptime := header.uptime % 2 ^ 25 } = (⟨3, 7, 1, 9⟩ : Header) := by
    show (⟨3, 7, 0x2000001 % 2 ^ 25, 9⟩ : Header) = ⟨3, 7, 1, 9⟩
    decide
  obtain ⟨encoded, next, samples, received, happend, -, hreceive, hwritten, -, -, hdecode, hcount,
    -, -, htrailer⟩ :=
    received_frame_after_calls .bpsk (start .bpsk) calls header payload #[] hstart hcopies hmode
      htype hpayload
  rw [hwrapped] at hdecode
  exact ⟨hstart, hcopies, hmode, htype, hpayload, encoded, next, samples, received, happend,
    hreceive, hwritten, hdecode, hcount, htrailer⟩

end Downlink.Encoder
