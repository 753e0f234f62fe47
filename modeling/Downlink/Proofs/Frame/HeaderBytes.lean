import Mathlib
import Downlink.Proofs.Frame.HeaderFields

/-!
# Header bytes

The packed fields are six bytes, and any six bytes are packed fields: headers whose fields have 3,
16, 25 and 4 bits correspond to them one to one. The header bytes of a layout are these six, and
behind them the marker and zeros.
-/

namespace Downlink.Header

/-- A header whose fields have 3, 16, 25 and 4 bits. -/
structure Fits (h : Header) : Prop where
  modeId_le : h.modeId ≤ 7
  uptime_lt : h.uptime < 0x2000000
  frameType_le : h.frameType ≤ 15

/-- The six bytes of the packed fields. -/
def packedBytes (h : Header) : List UInt8 := LittleEndian.bytes packedHeaderBytes h.packed

/-! ### Fields of any packed number -/

theorem fits_ofPacked (n : Nat) : (ofPacked n).Fits := by
  refine ⟨?_, ?_, ?_⟩
  · rw [UInt8.le_iff_toNat_le, ofPacked, UInt8.toNat_ofNat']
    simp
    omega
  · rw [UInt32.lt_iff_toNat_lt, ofPacked, UInt32.toNat_ofNat']
    simp
    omega
  · rw [UInt8.le_iff_toNat_le, ofPacked, UInt8.toNat_ofNat']
    simp
    omega

theorem packed_ofPacked (n : Nat) (h : n < 0x1000000000000) : (ofPacked n).packed = n := by
  simp only [packed, ofPacked, UInt8.toNat_ofNat', UInt16.toNat_ofNat', UInt32.toNat_ofNat']
  omega

theorem wrapped_of_fits (h : Header) (hfits : h.Fits) : h.wrapped = h := by
  have huptime : h.uptime % 0x2000000 = h.uptime := by
    have hlt := UInt32.lt_iff_toNat_lt.mp hfits.uptime_lt
    apply UInt32.toNat_inj.mp
    rw [UInt32.toNat_mod]
    exact Nat.mod_eq_of_lt hlt
  rw [wrapped, huptime]

theorem length_packedBytes (h : Header) : h.packedBytes.length = packedHeaderBytes :=
  LittleEndian.length_bytes _ _

theorem ofPacked_value_packedBytes (h : Header) (hfits : h.Fits) :
    ofPacked (LittleEndian.value h.packedBytes) = h := by
  have hmode := UInt8.le_iff_toNat_le.mp hfits.modeId_le
  have htype := UInt8.le_iff_toNat_le.mp hfits.frameType_le
  have hpow : Nat.pow 256 packedHeaderBytes = 0x1000000000000 := rfl
  rw [packedBytes, LittleEndian.value_bytes, hpow, Nat.mod_eq_of_lt (h.packed_lt hmode htype),
    h.ofPacked_packed hmode htype, wrapped_of_fits h hfits]

/-- Any six bytes are the packed fields of the header that is read from them. -/
theorem packedBytes_ofPacked (front : List UInt8) (hlen : front.length = packedHeaderBytes) :
    (ofPacked (LittleEndian.value front)).packedBytes = front := by
  have hlt := LittleEndian.value_lt front
  rw [hlen] at hlt
  rw [packedBytes, packed_ofPacked _ hlt, ← hlen, LittleEndian.bytes_value]

theorem bijOn_packedBytes :
    Set.BijOn packedBytes {h | h.Fits} {front | front.length = packedHeaderBytes} := by
  refine ⟨fun h _ => h.length_packedBytes, ?_, ?_⟩
  · intro h hh k hk heq
    rw [← ofPacked_value_packedBytes h hh, heq, ofPacked_value_packedBytes k hk]
  · intro front hfront
    exact ⟨_, fits_ofPacked _, packedBytes_ofPacked front hfront⟩

/-! ### Header bytes of a layout -/

theorem encode_ok_iff (h : Header) (l : Layout) :
    (∃ bytes, h.encode l = .ok bytes) ↔ h.modeId ≤ 7 ∧ h.frameType ≤ 15 := by
  rw [UInt8.le_iff_toNat_le, UInt8.le_iff_toNat_le]
  constructor
  · rintro ⟨bytes, hok⟩
    rw [encode] at hok
    split_ifs at hok with hmode htype
    exact ⟨Nat.le_of_not_lt hmode, Nat.le_of_not_lt htype⟩
  · rintro ⟨hmode, htype⟩
    exact ⟨_, h.encode_eq_ok l hmode htype⟩

/-- Behind the packed fields stand the marker and zeros. -/
theorem getElem?_putMarker (marker : Option (Nat × UInt8)) (front : List UInt8) (n i : Nat)
    (hle : front.length ≤ i) (hlt : i < front.length + n) :
    (putMarker marker (front ++ List.replicate n 0))[i]? =
      some (if marker.map Prod.fst = some i then (marker.map Prod.snd).getD 0 else 0) := by
  have hzero : (front ++ List.replicate n (0 : UInt8))[i]? = some 0 := by
    rw [List.getElem?_append_right hle, List.getElem?_replicate, if_pos (by omega)]
  have hlen : i < (front ++ List.replicate n (0 : UInt8)).length := by
    rw [List.length_append, List.length_replicate]
    exact hlt
  cases marker with
  | none => exact hzero
  | some m =>
    simp only [putMarker, Option.map_some, Option.some.injEq, Option.getD_some]
    by_cases hm : m.1 = i
    · rw [if_pos hm, hm, List.getElem?_set_self hlen]
    · rw [if_neg hm, List.getElem?_set_ne hm, hzero]

theorem encode_shape (h : Header) (l : Layout) (hl : l.Consistent) (bytes : List UInt8)
    (hok : h.encode l = .ok bytes) :
    bytes.length = l.headerLength ∧ bytes.take packedHeaderBytes = h.packedBytes ∧
      ∀ i, packedHeaderBytes ≤ i → i < l.headerLength → bytes[i]? =
        some (if l.marker.map Prod.fst = some i then (l.marker.map Prod.snd).getD 0 else 0) := by
  obtain ⟨hmode, htype⟩ := (h.encode_ok_iff l).mp ⟨bytes, hok⟩
  rw [h.encode_eq_ok l (UInt8.le_iff_toNat_le.mp hmode) (UInt8.le_iff_toNat_le.mp htype)] at hok
  obtain rfl := Except.ok.inj hok
  have hlen := h.length_packedBytes
  have hheader := hl.header_le
  refine ⟨?_, ?_, ?_⟩
  · rw [length_putMarker, List.length_append, LittleEndian.length_bytes, List.length_replicate]
    omega
  · rw [take_putMarker _ _ fun m hm => (hl.marker_lt m hm).1]
    exact List.take_left' hlen
  · intro i hle hlt
    exact getElem?_putMarker l.marker h.packedBytes _ i (by omega) (by omega)

/-- A valid layout gives header bytes exactly to headers whose mode and frame type fit. They are as
many as the layout says, are read back as the header with its uptime modulo `2 ^ 25`, and hold
nothing but zeros and the marker behind the packed fields. Conversely any six bytes are the packed
fields of the header that is read from them: fields of 3, 16, 25 and 4 bits and packed headers
correspond one to one. -/
theorem packed_fields_correspond (l : Layout) (hvalid : l.validate = .ok ()) :
    (∀ h : Header, (∃ bytes, h.encode l = .ok bytes) ↔ h.modeId ≤ 7 ∧ h.frameType ≤ 15) ∧
    (∀ (h : Header) (bytes : List UInt8), h.encode l = .ok bytes →
      bytes.length = l.headerLength ∧ decode bytes = .ok h.wrapped ∧
      bytes.take 6 = h.packedBytes ∧
      (∀ m, l.marker = some m → bytes[m.1]? = some m.2) ∧
      ∀ i, 6 ≤ i → i < l.headerLength → (∀ m, l.marker = some m → m.1 ≠ i) →
        bytes[i]? = some 0) ∧
    (∀ data : List UInt8, 6 ≤ data.length →
      ∃ h bytes, decode data = .ok h ∧ h.encode l = .ok bytes ∧ bytes.take 6 = data.take 6) ∧
    Set.BijOn packedBytes {h | h.Fits} {front | front.length = 6} := by
  have hl := l.validate_eq_ok_iff.mp hvalid
  refine ⟨fun h => h.encode_ok_iff l, ?_, ?_, bijOn_packedBytes⟩
  · intro h bytes hok
    obtain ⟨hmode, htype⟩ := (h.encode_ok_iff l).mp ⟨bytes, hok⟩
    obtain ⟨hlen, htake, hbehind⟩ := h.encode_shape l hl bytes hok
    obtain ⟨again, hagain, -, hdecode⟩ := h.exists_encode_eq_ok l hl hmode htype
    rw [hok] at hagain
    obtain rfl := Except.ok.inj hagain
    refine ⟨hlen, hdecode, htake, ?_, ?_⟩
    · intro m hm
      have hplace := hl.marker_lt m hm
      rw [hbehind m.1 hplace.1 hplace.2, hm]
      simp
    · intro i hle hlt hother
      have hnone : ¬l.marker.map Prod.fst = some i := by
        rw [Option.map_eq_some_iff]
        rintro ⟨m, hm, rfl⟩
        exact hother m hm rfl
      rw [hbehind i hle hlt, if_neg hnone]
  · intro data hlen
    have hfront : (data.take packedHeaderBytes).length = packedHeaderBytes := by
      rw [List.length_take]
      exact Nat.min_eq_left hlen
    have hfits := fits_ofPacked (LittleEndian.value (data.take packedHeaderBytes))
    obtain ⟨bytes, hok⟩ := (encode_ok_iff _ l).mpr ⟨hfits.modeId_le, hfits.frameType_le⟩
    obtain ⟨-, htake, -⟩ := encode_shape _ l hl bytes hok
    refine ⟨_, bytes, if_neg (Nat.not_lt.mpr hlen), hok, ?_⟩
    rw [packedBytes_ofPacked _ hfront] at htake
    exact htake

theorem packed_fields_correspond_full_width :
    let h : Header :=
      { modeId := 7, resetCount := 0xFFFF, uptime := 0x2000009, frameType := 15 }
    Layout.bpsk.validate = .ok () ∧
      (∃ bytes, h.encode .bpsk = .ok bytes ∧ bytes.length = 8 ∧
        decode bytes = .ok { h with uptime := 9 } ∧ bytes[6]? = some 99 ∧ bytes[7]? = some 0) ∧
      ∃ k bytes, decode [0xA5, 0x5A, 0xFF, 0, 0x80, 0x7E, 1] = .ok k ∧ k.encode .bpsk = .ok bytes ∧
        bytes.take 6 = [0xA5, 0x5A, 0xFF, 0, 0x80, 0x7E] := by
  intro h
  obtain ⟨hiff, hread, hback, -⟩ := packed_fields_correspond .bpsk Layout.validate_bpsk
  obtain ⟨bytes, hok⟩ := (hiff h).mpr ⟨by decide, by decide⟩
  obtain ⟨hlen, hdecode, -, hmarker, hzero⟩ := hread h bytes hok
  have hmark := hmarker (6, 99) rfl
  have hlast := hzero 7 (by decide) (by decide) (by
    rintro m hm
    obtain rfl := Option.some.inj hm
    decide)
  have hwrapped : h.wrapped = { h with uptime := 9 } := by decide
  rw [hwrapped] at hdecode
  exact ⟨Layout.validate_bpsk, ⟨bytes, hok, hlen, hdecode, hmark, hlast⟩,
    hback [0xA5, 0x5A, 0xFF, 0, 0x80, 0x7E, 1] (by decide)⟩

end Downlink.Header
