import Mathlib
import Downlink.Modulator
import Downlink.Frame.SymbolStream
import Downlink.Proofs.Parity.Codeword
import Downlink.Proofs.LineCode.Decoding

/-!
# Receiving a frame

A receiver drops the sync word, reads the symbols back ten bits at a time and takes the parity apart
again. It knows the layout and the sync word but not the disparity. From the bits of a frame on air
it gets the frame.
-/

namespace Downlink

/-- What a receiver gets from the bits of a frame. -/
structure ReceivedFrame where
  /-- The logical bytes in the order of sending. -/
  written : List UInt8
  /-- The parity bytes of each sub-frame. -/
  parity : List (List UInt8)
  /-- What follows the last parity byte. -/
  trailer : List LineInput
  deriving DecidableEq, Repr

/-- The byte of an input that is no flag. -/
def LineInput.byte? : LineInput → Option UInt8
  | .data byte => some byte
  | .endOfFrame => none

/-- Collects the parity bytes of each sub-frame, of which there is one in every group. -/
def ungroup (subFrames : Nat) (bytes : List UInt8) : List (List UInt8) :=
  (List.range subFrames).map fun s =>
    (List.range parityBytes).filterMap fun i => bytes[i * subFrames + s]?

/-- Reads the bits of a frame. -/
def receive? (l : Layout) (sync : SyncWord) (bits : List Bool) : Option ReceivedFrame := do
  let inputs ← (regroup (bits.drop sync.width)).mapM LineCode.decode?
  let bytes ← (inputs.take (l.logicalLength + l.parityLength)).mapM LineInput.byte?
  return {
    written := bytes.take l.logicalLength
    parity := ungroup l.subFrames (bytes.drop l.logicalLength)
    trailer := inputs.drop (l.logicalLength + l.parityLength) }

/-! ### Parity groups -/

theorem getElem?_flatMap_map {α β : Type} (g : Nat → α → β) (xs : List α) (m i s : Nat)
    (hi : i < m) (hs : s < xs.length) :
    ((List.range m).flatMap fun i => xs.map (g i))[i * xs.length + s]? = some (g i xs[s]) := by
  induction m with
  | zero => omega
  | succ m ih =>
    have hlen : ((List.range m).flatMap fun i => xs.map (g i)).length = m * xs.length := by
      simp [List.length_flatMap, List.map_const']
    rw [List.range_succ, List.flatMap_append, List.flatMap_singleton]
    by_cases hlast : i < m
    · have hle : (i + 1) * xs.length ≤ m * xs.length := Nat.mul_le_mul_right _ hlast
      rw [Nat.succ_mul] at hle
      rw [List.getElem?_append_left (by rw [hlen]; omega), ih hlast]
    · have hm : i = m := by omega
      subst hm
      rw [List.getElem?_append_right (by rw [hlen]; omega), hlen, Nat.add_sub_cancel_left,
        List.getElem?_map, List.getElem?_eq_getElem hs]
      rfl

theorem map_getD_range (p : Parity) :
    (List.range parityBytes).map (fun i => p.getD i 0) = p.toList := by
  apply List.ext_getElem
  · rw [length_toList_parity]
    simp [parityBytes]
  · intro i h₁ h₂
    rw [List.getElem_map, List.getElem_range, getD_eq_getD_toList, List.getElem?_eq_getElem h₂,
      Option.getD_some]

theorem ungroup_parityInterleaved (f : InterleavedFrame) :
    ungroup f.parity.length f.parityInterleaved = f.parity.map Vector.toList := by
  apply List.ext_getElem
  · simp [ungroup]
  · intro s h₁ h₂
    have hs : s < f.parity.length := by simpa using h₂
    have hbytes : ∀ i ∈ List.range parityBytes,
        f.parityInterleaved[i * f.parity.length + s]? = some (f.parity[s].getD i 0) := by
      intro i hi
      exact getElem?_flatMap_map (fun i (p : Parity) => p.getD i 0) f.parity parityBytes i s
        (List.mem_range.mp hi) hs
    simp only [ungroup, List.getElem_map, List.getElem_range]
    rw [List.filterMap_congr hbytes, ← map_getD_range, ← List.filterMap_eq_map]
    rfl

/-! ### Bits on air -/

theorem mapM_byte?_data (bytes : List UInt8) :
    (bytes.map LineInput.data).mapM LineInput.byte? = some bytes := by
  induction bytes with
  | nil => rfl
  | cons b rest ih =>
    rw [List.map_cons, List.mapM_cons, ih]
    rfl

theorem drop_airBits (sync : SyncWord) (symbols : List Symbol) :
    (airBits sync symbols).drop sync.width = symbols.flatMap Symbol.bits :=
  List.drop_left' sync.length_bits

/-- The bits of a frame are read back as the frame, whatever the disparity when they went out. -/
theorem receive?_airBits (l : Layout) (sync : SyncWord) (f : InterleavedFrame) (rd : Disparity)
    (hwritten : f.written.length = l.logicalLength) (hparity : f.parity.length = l.subFrames) :
    receive? l sync (airBits sync (f.symbols l.endFlag rd).symbols.toList) =
      some ⟨f.written, f.parity.map Vector.toList, if l.endFlag then [.endOfFrame] else []⟩ := by
  have hlen : (f.bytes.map LineInput.data).length = l.logicalLength + l.parityLength := by
    rw [List.length_map, f.length_bytes, hwritten, hparity, Layout.parityLength, Nat.mul_comm]
  have hinputs : (regroup ((airBits sync (f.symbols l.endFlag rd).symbols.toList).drop
      sync.width)).mapM LineCode.decode? = some (f.lineInputs l.endFlag) := by
    rw [drop_airBits, regroup_flatMap_bits, f.symbols_eq]
    exact LineCode.mapM_decode?_encodeAll rd _
  have htake : (f.lineInputs l.endFlag).take (l.logicalLength + l.parityLength) =
      f.bytes.map LineInput.data := List.take_left' hlen
  have hdrop : (f.lineInputs l.endFlag).drop (l.logicalLength + l.parityLength) =
      if l.endFlag then [.endOfFrame] else [] := List.drop_left' hlen
  have hfront : f.bytes.take l.logicalLength = f.written := List.take_left' hwritten
  have hback : f.bytes.drop l.logicalLength = f.parityInterleaved := List.drop_left' hwritten
  rw [receive?, hinputs]
  simp only [Option.bind_eq_bind, Option.bind_some, htake, mapM_byte?_data, hdrop, hfront, hback]
  rw [← hparity, ungroup_parityInterleaved]
  rfl

end Downlink
