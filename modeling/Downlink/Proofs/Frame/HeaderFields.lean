import Mathlib
import Downlink.Frame.Header
import Downlink.Proofs.Frame.Slots

/-!
# Header fields

The fields of a header are the digits of its packed number, and reading takes them off again. In a
consistent layout the marker stands behind them, so a header is read back as it was written, its
uptime modulo `2 ^ 25`.
-/

namespace Downlink.Header

/-- A header as it can be sent: its uptime has wrapped. -/
def wrapped (h : Header) : Header := { h with uptime := h.uptime % 0x2000000 }

theorem packed_lt (h : Header) (hmode : h.modeId.toNat ≤ 7) (htype : h.frameType.toNat ≤ 15) :
    h.packed < 0x1000000000000 := by
  have hreset := h.resetCount.toNat_lt
  simp only [packed]
  omega

theorem ofPacked_packed (h : Header) (hmode : h.modeId.toNat ≤ 7) (htype : h.frameType.toNat ≤ 15) :
    ofPacked h.packed = h.wrapped := by
  have hreset := h.resetCount.toNat_lt
  have h₁ : h.packed % 0x8 = h.modeId.toNat := by
    simp only [packed]
    omega
  have h₂ : h.packed / 0x8 % 0x10000 = h.resetCount.toNat := by
    simp only [packed]
    omega
  have h₃ : h.packed / 0x80000 % 0x2000000 = h.uptime.toNat % 0x2000000 := by
    simp only [packed]
    omega
  have h₄ : h.packed / 0x100000000000 % 0x10 = h.frameType.toNat := by
    simp only [packed]
    omega
  have huptime : UInt32.ofNat (h.uptime.toNat % 0x2000000) = h.uptime % 0x2000000 := by
    apply UInt32.toNat_inj.mp
    rw [UInt32.toNat_mod]
    simp
    omega
  rw [ofPacked, h₁, h₂, h₃, h₄, huptime, UInt8.ofNat_toNat, UInt16.ofNat_toNat, UInt8.ofNat_toNat,
    wrapped]

theorem encode_eq_ok (h : Header) (layout : Layout) (hmode : h.modeId.toNat ≤ 7)
    (htype : h.frameType.toNat ≤ 15) :
    h.encode layout = .ok (putMarker layout.marker
      (LittleEndian.bytes packedHeaderBytes h.packed ++
        List.replicate (layout.headerLength - packedHeaderBytes) 0)) := by
  rw [encode, if_neg (by omega), if_neg (by omega)]

theorem length_putMarker (marker : Option (Nat × UInt8)) (bytes : List UInt8) :
    (putMarker marker bytes).length = bytes.length := by
  cases marker with
  | none => rfl
  | some m => exact List.length_set

theorem take_putMarker (marker : Option (Nat × UInt8)) (bytes : List UInt8)
    (h : ∀ m, marker = some m → packedHeaderBytes ≤ m.1) :
    (putMarker marker bytes).take packedHeaderBytes = bytes.take packedHeaderBytes := by
  cases marker with
  | none => rfl
  | some m => exact List.take_set_of_le (h m rfl)

theorem decode_of_take (bytes : List UInt8) (n : Nat) (hn : n < 0x1000000000000)
    (h : bytes.take packedHeaderBytes = LittleEndian.bytes packedHeaderBytes n) :
    decode bytes = .ok (ofPacked n) := by
  have hlen : packedHeaderBytes ≤ bytes.length := by
    have htake := congrArg List.length h
    rw [List.length_take, LittleEndian.length_bytes] at htake
    omega
  have hpow : Nat.pow 256 packedHeaderBytes = 0x1000000000000 := rfl
  rw [decode, if_neg (Nat.not_lt.mpr hlen), h, LittleEndian.value_bytes, hpow, Nat.mod_eq_of_lt hn]

/-- The header bytes of a consistent layout have its header length and read back. -/
theorem exists_encode_eq_ok (h : Header) (layout : Layout) (hlayout : layout.Consistent)
    (hmode : h.modeId ≤ 7) (htype : h.frameType ≤ 15) :
    ∃ bytes, h.encode layout = .ok bytes ∧ bytes.length = layout.headerLength ∧
      decode bytes = .ok h.wrapped := by
  have hmode : h.modeId.toNat ≤ 7 := UInt8.le_iff_toNat_le.mp hmode
  have htype : h.frameType.toNat ≤ 15 := UInt8.le_iff_toNat_le.mp htype
  refine ⟨_, h.encode_eq_ok layout hmode htype, ?_, ?_⟩
  · have hle := hlayout.header_le
    rw [length_putMarker, List.length_append, LittleEndian.length_bytes, List.length_replicate]
    omega
  · have htake : (putMarker layout.marker
        (LittleEndian.bytes packedHeaderBytes h.packed ++
          List.replicate (layout.headerLength - packedHeaderBytes) 0)).take packedHeaderBytes =
        LittleEndian.bytes packedHeaderBytes h.packed := by
      rw [take_putMarker _ _ fun m hm => (hlayout.marker_lt m hm).1,
        List.take_left' (LittleEndian.length_bytes _ _)]
    rw [decode_of_take _ _ (h.packed_lt hmode htype) htake, h.ofPacked_packed hmode htype]

end Downlink.Header
