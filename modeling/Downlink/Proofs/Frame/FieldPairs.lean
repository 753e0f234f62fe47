import Mathlib
import Downlink.Proofs.Frame.PackedFields

/-!
# Two fields in three bytes

A front field and the back field behind it take six half bytes, three each. So they can be written
in either order, each leaves the other's half of the middle byte alone, and both read back, with
their signs if they fit into twelve bits.
-/

namespace Downlink.PackedField

/-! ### Buffers by their half bytes -/

theorem half?_eq_none (buffer : List UInt8) (n : Nat) (h : 2 * buffer.length ≤ n) :
    half? buffer n = none := by
  rw [half?, List.getElem?_eq_none (by omega), Option.map_none]

theorem ext_half? {a b : List UInt8} (hlength : a.length = b.length)
    (h : ∀ n < 2 * a.length, half? a n = half? b n) : a = b := by
  apply List.ext_getElem hlength
  intro i ha hb
  have hlow := h (2 * i) (by omega)
  have hhigh := h (2 * i + 1) (by omega)
  rw [half?_low, half?_low, List.getElem?_eq_getElem ha, List.getElem?_eq_getElem hb,
    Option.map_some, Option.map_some, Option.some.injEq] at hlow
  rw [half?_high, half?_high, List.getElem?_eq_getElem ha, List.getElem?_eq_getElem hb,
    Option.map_some, Option.map_some, Option.some.injEq] at hhigh
  apply UInt8.toNat_inj.mp
  omega

section
variable (buffer : List UInt8) (k : Nat) (value : Int32) (n : Nat)

theorem half?_writeFront_of_not_covers (h : ¬Covers (2 * k) n) :
    half? (writeFront buffer k value) n = half? buffer n := by
  by_cases hn : n < 2 * buffer.length
  · rw [half?_writeFront buffer k value n hn, if_neg h]
  · have hlength := length_writeFront buffer k value
    rw [half?_eq_none buffer n (by omega), half?_eq_none _ n (by omega)]

theorem half?_writeBack_of_not_covers (h : ¬Covers (2 * k + 1) n) :
    half? (writeBack buffer k value) n = half? buffer n := by
  by_cases hn : n < 2 * buffer.length
  · rw [half?_writeBack buffer k value n hn, if_neg h]
  · have hlength := length_writeBack buffer k value
    rw [half?_eq_none buffer n (by omega), half?_eq_none _ n (by omega)]

end

/-! ### Both fields of a pair -/

section
variable (buffer : List UInt8) (k : Nat) (x y : Int32)

theorem writeBack_writeFront_comm :
    writeBack (writeFront buffer k x) (k + 1) y = writeFront (writeBack buffer (k + 1) y) k x := by
  have hfront := length_writeFront buffer k x
  have hback := length_writeBack buffer (k + 1) y
  apply ext_half?
  · rw [length_writeBack, length_writeFront, length_writeFront, length_writeBack]
  · intro n hn
    rw [length_writeBack, length_writeFront] at hn
    rw [half?_writeBack _ (k + 1) y n (by omega), half?_writeFront buffer k x n hn,
      half?_writeFront _ k x n (by omega), half?_writeBack buffer (k + 1) y n hn]
    -- No half byte belongs to both fields.
    by_cases hcovers : Covers (2 * k) n
    · have hother : ¬Covers (2 * (k + 1) + 1) n := by omega
      rw [if_pos hcovers, if_neg hother, if_pos hcovers]
    · rw [if_neg hcovers, if_neg hcovers]

theorem holds_writeFront (h : k + 1 < buffer.length) :
    Holds (writeFront buffer k x) (2 * k) x := by
  intro n hn
  rw [half?_writeFront buffer k x n (by omega), if_pos hn]

theorem holds_writeBack (h : k + 1 < buffer.length) :
    Holds (writeBack buffer k x) (2 * k + 1) x := by
  intro n hn
  rw [half?_writeBack buffer k x n (by omega), if_pos hn]

theorem writeFront?_of_lt (h : k + 1 < buffer.length) :
    writeFront? buffer k x = some (writeFront buffer k x) := by
  rw [writeFront?, fits, decide_eq_true h, if_pos rfl]

theorem writeBack?_of_lt (h : k + 1 < buffer.length) :
    writeBack? buffer k x = some (writeBack buffer k x) := by
  rw [writeBack?, fits, decide_eq_true h, if_pos rfl]

end

/-! ### Signs -/

theorem natCast_lowBits (value : Int32) : (lowBits value : Int) = value.toInt % 4096 :=
  Int.toNat_of_nonneg (Int.emod_nonneg _ (by decide))

theorem signed_lowBits {value : Int32} (h : -2048 ≤ value.toInt ∧ value.toInt ≤ 2047) :
    signed 12 (lowBits value) = value.toInt := by
  have hbits := natCast_lowBits value
  have hlt := lowBits_lt value
  have htop : (lowBits value).testBit (12 - 1) = decide (2048 ≤ lowBits value) := by
    rw [Nat.testBit_eq_decide_div_mod_eq, decide_eq_decide]
    omega
  have hrange : twoTo 12 = 4096 := rfl
  rw [signed, htop, hrange]
  by_cases hnegative : 2048 ≤ lowBits value
  · rw [decide_eq_true hnegative, if_pos rfl]
    omega
  · rw [decide_eq_false hnegative, if_neg Bool.false_ne_true]
    omega

/-- A buffer in which `x` and `y` have been written in the three bytes from `k` on, and that was
`before`. -/
structure HoldsPair (before : List UInt8) (k : Nat) (x y : Int32) (after : List UInt8) : Prop where
  length_eq : after.length = before.length
  other_eq : ∀ i, i ≠ k → i ≠ k + 1 → i ≠ k + 2 → after[i]? = before[i]?
  front_eq : (readFront? after k).map Int.ofNat = some (x.toInt % 4096)
  back_eq : (readBack? after (k + 1)).map Int.ofNat = some (y.toInt % 4096)
  signed_front : -2048 ≤ x.toInt ∧ x.toInt ≤ 2047 →
    (readFront? after k).map (signed 12) = some x.toInt
  signed_back : -2048 ≤ y.toInt ∧ y.toInt ≤ 2047 →
    (readBack? after (k + 1)).map (signed 12) = some y.toInt

theorem holdsPair_write (buffer : List UInt8) (k : Nat) (x y : Int32) (h : k + 2 < buffer.length) :
    HoldsPair buffer k x y (writeBack (writeFront buffer k x) (k + 1) y) := by
  have hlength := length_writeFront buffer k x
  -- Each field is looked at in the order in which it is written last.
  have hfront : Holds (writeBack (writeFront buffer k x) (k + 1) y) (2 * k) x := by
    rw [writeBack_writeFront_comm]
    exact holds_writeFront _ k x (by rw [length_writeBack]; omega)
  have hback : Holds (writeBack (writeFront buffer k x) (k + 1) y) (2 * (k + 1) + 1) y :=
    holds_writeBack _ (k + 1) y (by omega)
  have hreadFront := readFront?_of_holds _ k x hfront
  have hreadBack := readBack?_of_holds _ (k + 1) y hback
  constructor
  case length_eq => rw [length_writeBack, length_writeFront]
  case other_eq =>
    intro i hfirst hsecond hthird
    rw [getElem?_writeBack_other _ (k + 1) y i hsecond hthird,
      getElem?_writeFront_other buffer k x i hfirst hsecond]
  case front_eq =>
    rw [hreadFront, Option.map_some]
    exact congrArg some (natCast_lowBits x)
  case back_eq =>
    rw [hreadBack, Option.map_some]
    exact congrArg some (natCast_lowBits y)
  case signed_front =>
    intro hx
    rw [hreadFront, Option.map_some, signed_lowBits hx]
  case signed_back =>
    intro hy
    rw [hreadBack, Option.map_some, signed_lowBits hy]

/-- Wherever three bytes are left, a front field and the back field behind it can be written in
either order, with the same bytes in the end, in which both read back. Either one alone changes its
own three half bytes only. -/
theorem fields_share_middle_byte (buffer : List UInt8) (k : Nat) (h : k + 2 < buffer.length)
    (x y : Int32) :
    ∃ withFront withBack withBoth,
      writeFront? buffer k x = some withFront ∧
      writeBack? buffer (k + 1) y = some withBack ∧
      writeBack? withFront (k + 1) y = some withBoth ∧
      writeFront? withBack k x = some withBoth ∧
      HoldsPair buffer k x y withBoth ∧
      (∀ n, ¬Covers (2 * k) n → half? withFront n = half? buffer n) ∧
      ∀ n, ¬Covers (2 * (k + 1) + 1) n → half? withBack n = half? buffer n := by
  have hfront := length_writeFront buffer k x
  have hback := length_writeBack buffer (k + 1) y
  refine ⟨_, _, _, writeFront?_of_lt buffer k x (by omega), writeBack?_of_lt buffer (k + 1) y h,
    writeBack?_of_lt _ (k + 1) y (by omega), ?_, holdsPair_write buffer k x y h, ?_, ?_⟩
  · rw [writeBack_writeFront_comm]
    exact writeFront?_of_lt _ k x (by omega)
  · exact fun n => half?_writeFront_of_not_covers buffer k x n
  · exact fun n => half?_writeBack_of_not_covers buffer (k + 1) y n

/-- Both ends of the signed range, written over a used buffer. -/
theorem fields_share_middle_byte_signed :
    let buffer : List UInt8 := [0x11, 0xFF, 0x5A, 0xFF, 0x22]
    1 + 2 < buffer.length ∧
      (writeFront? buffer 1 (-2048)).bind (writeBack? · 2 2047) =
        some [0x11, 0x00, 0xF8, 0x7F, 0x22] ∧
      HoldsPair buffer 1 (-2048) 2047 [0x11, 0x00, 0xF8, 0x7F, 0x22] ∧
      (readFront? [0x11, 0x00, 0xF8, 0x7F, 0x22] 1).map (signed 12) = some (-2048) := by
  intro buffer
  have hlength : 1 + 2 < buffer.length := by decide
  have hwritten : writeBack? [0x11, 0x00, 0x58, 0xFF, 0x22] 2 2047 =
      some [0x11, 0x00, 0xF8, 0x7F, 0x22] := by decide
  obtain ⟨withFront, withBack, withBoth, hfront, -, hboth, -, hpair, -, -⟩ :=
    fields_share_middle_byte buffer 1 hlength (-2048) 2047
  have hfirst : writeFront? buffer 1 (-2048) = some [0x11, 0x00, 0x58, 0xFF, 0x22] := by decide
  obtain rfl := Option.some.inj (hfirst.symm.trans hfront)
  obtain rfl := Option.some.inj (hwritten.symm.trans hboth)
  refine ⟨hlength, ?_, hpair, hpair.signed_front (by decide)⟩
  rw [hfirst, Option.bind_some, hwritten]

end Downlink.PackedField
