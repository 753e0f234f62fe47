import Mathlib
import Downlink.Proofs.LineCode.Comma
import Downlink.Proofs.LineCode.Decoding

/-!
# Flags in a line

The flag starts with a comma, or with the inverse one when the disparity is positive. In a line of
bytes and flags in any order nothing else does: the neighbours of a flag are looked at as those of
a sync word are, at the disparity that each of them has.
-/

namespace Downlink.LineCode

theorem followsInLine_encode (rd : Disparity) (input : LineInput) (rest : List Bool) :
    FollowsInLine rd (Symbol.bits (encode rd input).1 ++ rest) := by
  cases input with
  | data byte => exact (follows_encodeByte rd byte rest).inLine
  | endOfFrame =>
    have hlen : 6 ≤ (Symbol.bits (rd.select flagForms)).length := by
      rw [Symbol.length_bits]
      decide
    rw [FollowsInLine, encode, List.take_append_of_le_length hlen]
    exact List.mem_cons_self

theorem followsInLine_encodeAll (rd : Disparity) (inputs : List LineInput) (rest : List Bool)
    (h : ∀ rd, FollowsInLine rd rest) :
    FollowsInLine rd ((encodeAll rd inputs).1.flatMap Symbol.bits ++ rest) := by
  cases inputs with
  | nil => exact h rd
  | cons input inputs =>
    rw [encodeAll_cons, List.flatMap_cons, List.append_assoc]
    exact followsInLine_encode rd input _

/-- In a flag only a comma or its inverse can start, and only at its first bit. -/
theorem flag_starts (rd : Disparity) (rest : List Bool) (h : FollowsInLine rd.flip rest) {i : Nat}
    (hi : i < 10) {pattern : List Bool} (hp : pattern ∈ forbidden)
    (hstart : StartsAt pattern (Symbol.bits (rd.select flagForms) ++ rest) i) :
    pattern ∈ [comma, inverseComma] ∧ i = 0 := by
  have hlead : ∀ rd ∈ [Disparity.negative, Disparity.positive], ∀ pattern ∈ forbidden,
      agrees pattern (Symbol.bits (rd.select flagForms)) = true →
        pattern ∈ [comma, inverseComma] := by
    decide
  have hall : ∀ rd ∈ [Disparity.negative, Disparity.positive],
      ∀ head ∈ (Symbol.bits (rd.flip.select flagForms)).take 6 :: heads rd.flip,
        quiet 9 ((Symbol.bits (rd.select flagForms)).tail ++ head) = true := by
    decide +kernel
  have hrd : rd ∈ [Disparity.negative, Disparity.positive] := by
    cases rd <;> decide
  have hquiet := hall rd hrd _ h
  obtain ⟨hagrees, hfirst⟩ := starts_at_first (Symbol.length_bits _) hquiet hi hp hstart
  exact ⟨hlead rd hrd pattern hp hagrees, hfirst⟩

/-- In one symbol of a line, a forbidden pattern starts only at the first bit of a flag. -/
theorem encode_starts (rd : Disparity) (input : LineInput) (rest : List Bool)
    (h : FollowsInLine (encode rd input).2 rest) {i : Nat} (hi : i < 10) {pattern : List Bool}
    (hp : pattern ∈ forbidden)
    (hstart : StartsAt pattern (Symbol.bits (encode rd input).1 ++ rest) i) :
    pattern ∈ [comma, inverseComma] ∧ i = 0 ∧ input = .endOfFrame := by
  cases input with
  | data byte =>
    have hquiet := quiet_encodeByte rd byte rest h
    exact absurd hstart (not_startsAt_of_quiet hquiet hi hp)
  | endOfFrame =>
    obtain ⟨hpattern, hfirst⟩ := flag_starts rd rest h hi hp hstart
    exact ⟨hpattern, hfirst, rfl⟩

theorem encodeAll_starts (rd : Disparity) (inputs : List LineInput) (rest : List Bool)
    (h : ∀ rd, FollowsInLine rd rest) {i : Nat} (hi : i < 10 * inputs.length)
    {pattern : List Bool} (hp : pattern ∈ forbidden)
    (hstart : StartsAt pattern ((encodeAll rd inputs).1.flatMap Symbol.bits ++ rest) i) :
    pattern ∈ [comma, inverseComma] ∧ 10 ∣ i ∧ inputs[i / 10]? = some .endOfFrame := by
  induction inputs generalizing rd i with
  | nil => simp at hi
  | cons input inputs ih =>
    have hfollows := followsInLine_encodeAll (encode rd input).2 inputs rest h
    rw [encodeAll_cons, List.flatMap_cons, List.append_assoc] at hstart
    by_cases hhere : i < 10
    · obtain ⟨hpattern, rfl, rfl⟩ := encode_starts rd input _ hfollows hhere hp hstart
      exact ⟨hpattern, Nat.dvd_zero 10, rfl⟩
    · obtain ⟨j, rfl⟩ := Nat.exists_eq_add_of_le (Nat.le_of_not_lt hhere)
      have hlen : (Symbol.bits (encode rd input).1).length = 10 := Symbol.length_bits _
      rw [← hlen, startsAt_append_right] at hstart
      rw [List.length_cons] at hi
      obtain ⟨hpattern, hdvd, hflag⟩ := ih (encode rd input).2 (by omega) hstart
      have hnext : (10 + j) / 10 = j / 10 + 1 := by omega
      refine ⟨hpattern, (Nat.dvd_add_right (Nat.dvd_refl 10)).mpr hdvd, ?_⟩
      rw [hnext, List.getElem?_cons_succ]
      exact hflag

theorem flag_leads (rd : Disparity) (inputs : List LineInput) (k : Nat)
    (h : inputs[k]? = some .endOfFrame) :
    let bits := (encodeAll rd inputs).1.flatMap Symbol.bits
    StartsAt comma bits (10 * k) ∨ StartsAt inverseComma bits (10 * k) := by
  intro bits
  obtain ⟨hk, hflag⟩ := List.getElem?_eq_some_iff.mp h
  have hdrop : bits.drop (10 * k) =
      Symbol.bits ((encodeAll rd (inputs.take k)).2.select flagForms) ++
        (encodeAll (encodeAll rd (inputs.take k)).2.flip
          (inputs.drop (k + 1))).1.flatMap Symbol.bits := by
    rw [drop_flatMap_bits, drop_encodeAll, List.drop_eq_getElem_cons hk, hflag, encodeAll_cons,
      List.flatMap_cons]
    rfl
  rw [StartsAt, StartsAt, hdrop]
  cases (encodeAll rd (inputs.take k)).2 with
  | negative =>
    have hlead : comma <+: Symbol.bits flagForms.1 := by decide
    exact Or.inl (hlead.trans (List.prefix_append _ _))
  | positive =>
    have hlead : inverseComma <+: Symbol.bits flagForms.2 := by decide
    exact Or.inr (hlead.trans (List.prefix_append _ _))

/-- In a line of bytes and flags, a comma or an inverse comma starts exactly at the first bit of
each flag, and no run of equal bits is longer than five. -/
theorem commas_mark_flags (rd : Disparity) (inputs : List LineInput) :
    let bits := (encodeAll rd inputs).1.flatMap Symbol.bits
    (∀ p, StartsAt [false, false, true, true, true, true, true] bits p ∨
        StartsAt [true, true, false, false, false, false, false] bits p ↔
      10 ∣ p ∧ inputs[p / 10]? = some .endOfFrame) ∧
    ∀ p b, ¬StartsAt (List.replicate 6 b) bits p := by
  intro bits
  have hlen : bits.length = 10 * inputs.length := by
    rw [length_flatMap_bits, length_encodeAll]
  -- What stands behind the line makes no pattern in it, and a sync word can stand behind any.
  have hforbidden : ∀ p, ∀ pattern ∈ forbidden, StartsAt pattern bits p →
      pattern ∈ [comma, inverseComma] ∧ 10 ∣ p ∧ inputs[p / 10]? = some .endOfFrame := by
    intro p pattern hp hstart
    have hinside : p < bits.length := lt_length_of_startsAt hstart hp
    have hfollows : ∀ rd, FollowsInLine rd SyncWord.fsk.bits := by
      intro rd
      have hsync := follows_sync rd []
      rw [List.append_nil] at hsync
      exact hsync.inLine
    exact encodeAll_starts rd inputs SyncWord.fsk.bits hfollows (hlen ▸ hinside) hp
      (hstart.append hinside.le _)
  refine ⟨fun p => ⟨?_, ?_⟩, fun p b hrun => ?_⟩
  · rintro (hstart | hstart)
    · exact (hforbidden p comma (by decide) hstart).2
    · exact (hforbidden p inverseComma (by decide) hstart).2
  · rintro ⟨⟨k, rfl⟩, hflag⟩
    rw [Nat.mul_div_cancel_left k (by decide)] at hflag
    exact flag_leads rd inputs k hflag
  · have hmem : List.replicate 6 b ∈ forbidden := by
      cases b <;> decide
    have hcomma := (hforbidden p _ hmem hrun).1
    cases b with
    | false => exact absurd hcomma (by decide)
    | true => exact absurd hcomma (by decide)

end Downlink.LineCode
