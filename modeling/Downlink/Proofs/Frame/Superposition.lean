import Mathlib
import Downlink.Proofs.Frame.Interleaving
import Downlink.Proofs.Parity.Linearity

/-!
# Superposition of frames

Which byte goes into which slot does not depend on the bytes, and each sub-frame keeps the parity of
its own. So the frame for the sum of two headers and of two payloads is the sum of their frames.
-/

namespace Downlink

/-- The bytewise sum of two frames. -/
def InterleavedFrame.xor (f g : InterleavedFrame) : InterleavedFrame :=
  { written := xorBytes f.written g.written
    parity := List.zipWith Parity.xor f.parity g.parity }

theorem bytesOf_xorBytes (slots : List Slot) (a b : List UInt8) (ha : slots.length = a.length)
    (hb : slots.length = b.length) (s : Nat) :
    bytesOf slots (xorBytes a b) s = xorBytes (bytesOf slots a s) (bytesOf slots b s) := by
  induction slots generalizing a b with
  | nil => rfl
  | cons slot slots ih =>
    obtain ⟨x, a, rfl⟩ := List.exists_cons_of_length_eq_add_one ha.symm
    obtain ⟨y, b, rfl⟩ := List.exists_cons_of_length_eq_add_one hb.symm
    have hrest := ih a b (by simpa using ha) (by simpa using hb)
    rw [xorBytes_cons, bytesOf_cons, bytesOf_cons, bytesOf_cons, hrest]
    by_cases hs : slot.subFrame = s
    · rw [if_pos hs, if_pos hs, if_pos hs, xorBytes_cons]
    · rw [if_neg hs, if_neg hs, if_neg hs]

theorem xorBytes_copies (n : Nat) (xs ys : List UInt8) (h : xs.length = ys.length) :
    xorBytes (List.replicate n xs).flatten (List.replicate n ys).flatten =
      (List.replicate n (xorBytes xs ys)).flatten := by
  induction n with
  | zero => rfl
  | succ n ih =>
    rw [List.replicate_succ, List.replicate_succ, List.replicate_succ, List.flatten_cons,
      List.flatten_cons, List.flatten_cons, xorBytes_append _ _ _ _ h, ih]

namespace Layout

theorem logicalBytes_xorBytes (l : Layout) (header₁ header₂ payload₁ payload₂ : List UInt8)
    (hheader : header₁.length = header₂.length) (hpayload : payload₁.length = payload₂.length) :
    l.logicalBytes (xorBytes header₁ header₂) (xorBytes payload₁ payload₂) =
      xorBytes (l.logicalBytes header₁ payload₁) (l.logicalBytes header₂ payload₂) := by
  rw [logicalBytes, logicalBytes, logicalBytes, xorBytes_append _ _ _ _ hheader,
    xorBytes_copies _ _ _ hpayload]

theorem remainder_bytesOf_xorBytes (l : Layout) (a b : List UInt8)
    (ha : l.slots.length = a.length) (hb : l.slots.length = b.length) (s : Nat) :
    remainder (bytesOf l.slots (xorBytes a b) s) =
      (remainder (bytesOf l.slots a s)).xor (remainder (bytesOf l.slots b s)) := by
  have hlen : (bytesOf l.slots a s).length = (bytesOf l.slots b s).length := by
    rw [length_bytesOf _ _ ha, length_bytesOf _ _ hb]
  rw [bytesOf_xorBytes _ _ _ ha hb, remainder_xorBytes _ _ hlen]

/-- Interleaving the sums of two headers and of two payloads succeeds as it does for each of them,
and gives the sum of the two frames, in the bytes as in the parity of every sub-frame. -/
theorem interleave_superposes (l : Layout) (hvalid : l.validate = .ok ())
    (header₁ header₂ payload₁ payload₂ : List UInt8)
    (hheader₁ : header₁.length = l.headerLength) (hheader₂ : header₂.length = l.headerLength)
    (hpayload₁ : payload₁.length = l.payloadLength)
    (hpayload₂ : payload₂.length = l.payloadLength) :
    ∃ f g : InterleavedFrame,
      l.interleave header₁ payload₁ = .ok f ∧ l.interleave header₂ payload₂ = .ok g ∧
      f.written.length = g.written.length ∧ f.parity.length = g.parity.length ∧
      l.interleave (xorBytes header₁ header₂) (xorBytes payload₁ payload₂) = .ok (f.xor g) := by
  have hcons := l.validate_eq_ok_iff.mp hvalid
  have hheader : (xorBytes header₁ header₂).length = l.headerLength := by
    rw [length_xorBytes _ _ (hheader₁.trans hheader₂.symm), hheader₁]
  have hpayload : (xorBytes payload₁ payload₂).length = l.payloadLength := by
    rw [length_xorBytes _ _ (hpayload₁.trans hpayload₂.symm), hpayload₁]
  have hlen₁ := l.length_logicalBytes header₁ payload₁ hheader₁ hpayload₁
  have hlen₂ := l.length_logicalBytes header₂ payload₂ hheader₂ hpayload₂
  have hslots := l.length_slots hcons
  refine ⟨_, _, l.interleave_eq_ok header₁ payload₁ hcons hheader₁ hpayload₁,
    l.interleave_eq_ok header₂ payload₂ hcons hheader₂ hpayload₂, hlen₁.trans hlen₂.symm,
    by simp, ?_⟩
  rw [l.interleave_eq_ok _ _ hcons hheader hpayload, InterleavedFrame.xor,
    l.logicalBytes_xorBytes _ _ _ _ (hheader₁.trans hheader₂.symm)
      (hpayload₁.trans hpayload₂.symm)]
  congr 2
  rw [List.zipWith_map, List.zipWith_self]
  refine List.map_congr_left fun s _ => ?_
  exact l.remainder_bytesOf_xorBytes _ _ (hslots.trans hlen₁.symm) (hslots.trans hlen₂.symm) s

theorem interleave_superposes_skipped_slot :
    bpsk.validate = .ok () ∧
      ∃ f g : InterleavedFrame,
        bpsk.interleave (List.replicate 8 0x53) (List.replicate 78 0xCA) = .ok f ∧
        bpsk.interleave (List.replicate 8 0x35) (List.replicate 78 0x0F) = .ok g ∧
        bpsk.interleave (List.replicate 8 0x66) (List.replicate 78 0xC5) = .ok (f.xor g) := by
  obtain ⟨f, g, hf, hg, -, -, hsum⟩ := interleave_superposes bpsk validate_bpsk
    (List.replicate 8 0x53) (List.replicate 8 0x35) (List.replicate 78 0xCA)
    (List.replicate 78 0x0F) List.length_replicate List.length_replicate List.length_replicate
    List.length_replicate
  exact ⟨validate_bpsk, f, g, hf, hg, hsum⟩

end Layout

end Downlink
