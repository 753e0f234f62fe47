import Mathlib
import Downlink.LineCode

/-!
# Decoding the line code

A symbol stands for one input whatever the disparity: the forms of the sub-blocks are all different,
the alternate form has its own bits, and the flag's six bits are in no data symbol. So the table can
be read backwards, symbol by symbol, and ten bits at a time.
-/

namespace Downlink.LineCode

/-! ### Symbols -/

/-- The low five bits whose sub-block has a form. -/
def low? (six : BitVec 6) : Option Nat :=
  sixTable.toList.findIdx? fun forms => forms.1 == six || forms.2 == six

/-- The high three bits whose sub-block has a form, the alternate one included. -/
def high? (four : BitVec 4) : Option Nat :=
  if four == alternateFour.1 || four == alternateFour.2 then some 7
  else fourTable.toList.findIdx? fun forms => forms.1 == four || forms.2 == four

/-- The input of a symbol, without the disparity at which it was sent. -/
def decode? (symbol : Symbol) : Option LineInput :=
  if symbol == flagForms.1 || symbol == flagForms.2 then some .endOfFrame
  else do
    let low ← low? (symbol.extractLsb' 4 6)
    let high ← high? (symbol.extractLsb' 0 4)
    return .data (UInt8.ofNat (32 * high + low))

theorem low?_select (rd : Disparity) (low : Nat) (h : low < 32) :
    low? (rd.select (sixTable.getD low (0, 0))) = some low := by
  have hall : ∀ low < 32, low? (sixTable.getD low (0, 0)).1 = some low ∧
      low? (sixTable.getD low (0, 0)).2 = some low := by
    decide
  cases rd with
  | negative => exact (hall low h).1
  | positive => exact (hall low h).2

theorem high?_select (rd : Disparity) (low high : Nat) (h : high < 8) :
    high? (rd.select (fourForms rd low high)) = some high := by
  have hall : ∀ high < 8, high? (fourTable.getD high alternateFour).1 = some high ∧
      high? (fourTable.getD high alternateFour).2 = some high := by
    decide
  by_cases halt : high = 7 ∧ needsAlternate rd low
  · obtain ⟨rfl, hneeds⟩ := halt
    rw [fourForms, hneeds]
    cases rd with
    | negative => decide
    | positive => decide
  · have hforms : fourForms rd low high = fourTable.getD high alternateFour := by
      rw [fourForms, if_neg]
      simpa using halt
    rw [hforms]
    cases rd with
    | negative => exact (hall high h).1
    | positive => exact (hall high h).2

/-- The first six bits of the flag are in no data symbol. -/
theorem low?_flag (symbol : Symbol) (h : symbol = flagForms.1 ∨ symbol = flagForms.2) :
    low? (symbol.extractLsb' 4 6) = none := by
  rcases h with rfl | rfl
  · decide
  · decide

theorem decode?_append (six : BitVec 6) (four : BitVec 4) (low high : Nat)
    (hlow : low? six = some low) (hhigh : high? four = some high) :
    decode? (six ++ four) = some (.data (UInt8.ofNat (32 * high + low))) := by
  have hsix : (six ++ four).extractLsb' 4 6 = six := BitVec.extractLsb'_append_eq_left
  have hfour : (six ++ four).extractLsb' 0 4 = four := BitVec.extractLsb'_append_eq_right
  have hflag : ¬(six ++ four = flagForms.1 ∨ six ++ four = flagForms.2) := by
    intro h
    have hnone := low?_flag _ h
    rw [hsix, hlow] at hnone
    exact absurd hnone (by simp)
  rw [decode?, if_neg (by simpa using hflag), hsix, hfour, hlow, hhigh]
  rfl

theorem decode?_encodeByte (rd : Disparity) (byte : UInt8) :
    decode? (encodeByte rd byte).1 = some (.data byte) := by
  have hlt := byte.toNat_lt
  have hhigh : byte.toNat / 32 < 8 := by omega
  have hbyte : UInt8.ofNat (32 * (byte.toNat / 32) + byte.toNat % 32) = byte := by
    rw [Nat.div_add_mod, UInt8.ofNat_toNat]
  have hdecode := decode?_append _ _ _ _
    (low?_select rd (byte.toNat % 32) (Nat.mod_lt _ (by decide)))
    (high?_select (rd.after (rd.select (sixTable.getD (byte.toNat % 32) (0, 0))))
      (byte.toNat % 32) (byte.toNat / 32) hhigh)
  rw [hbyte] at hdecode
  exact hdecode

theorem decode?_encode (rd : Disparity) (input : LineInput) :
    decode? (encode rd input).1 = some input := by
  cases input with
  | data byte => exact decode?_encodeByte rd byte
  | endOfFrame => cases rd <;> decide

theorem mapM_decode?_encodeAll (rd : Disparity) (inputs : List LineInput) :
    (encodeAll rd inputs).1.mapM decode? = some inputs := by
  induction inputs generalizing rd with
  | nil => rfl
  | cons input rest ih =>
    rw [encodeAll_cons, List.mapM_cons, decode?_encode, ih]
    rfl

end Downlink.LineCode

namespace Downlink

/-! ### Bits -/

/-- The symbol whose bits are given, the first on the left. -/
def Symbol.ofBits (bits : List Bool) : Symbol :=
  BitVec.ofNat 10 (bits.foldl (fun n bit => 2 * n + bit.toNat) 0)

theorem Symbol.foldl_bits (symbol : Symbol) (k : Nat) (h : k ≤ 10) :
    ((List.range k).map symbol.getMsbD).foldl (fun n bit => 2 * n + bit.toNat) 0 =
      symbol.toNat / 2 ^ (10 - k) := by
  induction k with
  | zero =>
    have hlt := symbol.isLt
    simp only [List.range_zero, List.map_nil, List.foldl_nil]
    omega
  | succ k ih =>
    have hbit : (symbol.getMsbD k).toNat = symbol.toNat / 2 ^ (10 - (k + 1)) % 2 := by
      have hk : (decide (k < 10)) = true := decide_eq_true (by omega)
      rw [BitVec.getMsbD_eq_getLsbD, hk, Bool.true_and, BitVec.getLsbD,
        Nat.testBit_eq_decide_div_mod_eq, show 10 - 1 - k = 10 - (k + 1) by omega]
      generalize symbol.toNat / 2 ^ (10 - (k + 1)) = q
      rcases Nat.mod_two_eq_zero_or_one q with hzero | hone
      · simp [hzero]
      · simp [hone]
    have hpow : 2 ^ (10 - k) = 2 ^ (10 - (k + 1)) * 2 := by
      rw [← pow_succ, show 10 - k = 10 - (k + 1) + 1 by omega]
    rw [List.range_succ, List.map_append, List.foldl_append, ih (by omega), List.map_singleton,
      List.foldl_cons, List.foldl_nil, hbit, hpow, ← Nat.div_div_eq_div_mul]
    omega

theorem Symbol.ofBits_bits (symbol : Symbol) : Symbol.ofBits (Symbol.bits symbol) = symbol := by
  have hfold := Symbol.foldl_bits symbol 10 (le_refl 10)
  rw [Symbol.ofBits, Symbol.bits, hfold, Nat.sub_self, pow_zero, Nat.div_one, BitVec.ofNat_toNat,
    BitVec.setWidth_eq]

/-- The first symbols of a bit stream, ten bits each. -/
def firstSymbols : Nat → List Bool → List Symbol
  | 0, _ => []
  | n + 1, bits => Symbol.ofBits (bits.take 10) :: firstSymbols n (bits.drop 10)

/-- The symbols of a bit stream, ten bits each. -/
def regroup (bits : List Bool) : List Symbol := firstSymbols (bits.length / 10) bits

theorem length_flatMap_bits (symbols : List Symbol) :
    (symbols.flatMap Symbol.bits).length = 10 * symbols.length := by
  induction symbols with
  | nil => rfl
  | cons s rest ih =>
    rw [List.flatMap_cons, List.length_append, Symbol.length_bits, ih, List.length_cons]
    omega

theorem regroup_flatMap_bits (symbols : List Symbol) :
    regroup (symbols.flatMap Symbol.bits) = symbols := by
  rw [regroup, length_flatMap_bits, Nat.mul_div_cancel_left _ (by decide)]
  induction symbols with
  | nil => rfl
  | cons s rest ih =>
    have hlen : (Symbol.bits s).length = 10 := Symbol.length_bits s
    rw [List.length_cons, firstSymbols, List.flatMap_cons, List.take_left' hlen,
      List.drop_left' hlen, Symbol.ofBits_bits, ih]

theorem drop_flatMap_bits (symbols : List Symbol) (k : Nat) :
    (symbols.flatMap Symbol.bits).drop (10 * k) = (symbols.drop k).flatMap Symbol.bits := by
  induction k generalizing symbols with
  | zero => rfl
  | succ k ih =>
    cases symbols with
    | nil => simp
    | cons symbol rest =>
      have hlen : (Symbol.bits symbol).length = 10 := Symbol.length_bits symbol
      rw [List.flatMap_cons, Nat.mul_succ, Nat.add_comm, ← List.drop_drop, List.drop_left' hlen, ih,
        List.drop_succ_cons]

end Downlink

namespace Downlink.LineCode

/-! ### Any point of a stream -/

theorem drop_encodeAll (rd : Disparity) (inputs : List LineInput) (k : Nat) :
    (encodeAll rd inputs).1.drop k =
      (encodeAll (encodeAll rd (inputs.take k)).2 (inputs.drop k)).1 := by
  induction k generalizing rd inputs with
  | zero => rfl
  | succ k ih =>
    cases inputs with
    | nil => rfl
    | cons input rest =>
      rw [encodeAll_cons, List.drop_succ_cons, ih, List.take_succ_cons, encodeAll_cons,
        List.drop_succ_cons]

theorem decode_from (rd : Disparity) (inputs : List LineInput) (k : Nat) :
    (regroup (((encodeAll rd inputs).1.flatMap Symbol.bits).drop (10 * k))).mapM decode? =
      some (inputs.drop k) := by
  rw [drop_flatMap_bits, regroup_flatMap_bits, drop_encodeAll]
  exact mapM_decode?_encodeAll _ _

/-- Symbols determine the inputs they were sent for, whatever the disparities at which two encoders
started. From the first bit of any symbol on, the inputs that are still to come can be read off the
bits alone. -/
theorem symbols_determine_inputs (rd rd' : Disparity) (xs ys : List LineInput)
    (h : (encodeAll rd xs).1 = (encodeAll rd' ys).1) :
    xs = ys ∧ ∀ k,
      (regroup (((encodeAll rd' ys).1.flatMap Symbol.bits).drop (10 * k))).mapM decode? =
        some (xs.drop k) := by
  have hxs := mapM_decode?_encodeAll rd xs
  have hys := mapM_decode?_encodeAll rd' ys
  rw [h] at hxs
  have heq : xs = ys := Option.some.inj (hxs.symm.trans hys)
  refine ⟨heq, fun k => ?_⟩
  rw [heq]
  exact decode_from rd' ys k

theorem symbols_determine_inputs_balanced :
    let inputs : List LineInput := [.data 0xB5, .data 0x4A, .data 0xB5]
    (encodeAll .negative inputs).1 = (encodeAll .positive inputs).1 ∧
      (regroup (((encodeAll .positive inputs).1.flatMap Symbol.bits).drop 10)).mapM decode? =
        some [.data 0x4A, .data 0xB5] := by
  intro inputs
  have hsame : (encodeAll .negative inputs).1 = (encodeAll .positive inputs).1 := by decide
  obtain ⟨-, hread⟩ := symbols_determine_inputs .negative .positive inputs inputs hsame
  exact ⟨hsame, hread 1⟩

end Downlink.LineCode
