import Mathlib
import Downlink.LineCode

/-!
# Sub-blocks

The symbol of a byte is a block of six bits and one of four, each sent in the form that the running
disparity asks for. What holds of a symbol is shown for the forms of the two tables, of which there
are few, and put together.
-/

namespace Downlink.LineCode

/-- The bits of a block in the order of sending. -/
def blockBits {w : Nat} (block : BitVec w) : List Bool := (List.range w).map block.getMsbD

theorem length_blockBits {w : Nat} (block : BitVec w) : (blockBits block).length = w := by
  simp [blockBits]

theorem blockBits_append {v w : Nat} (front : BitVec v) (back : BitVec w) :
    blockBits (front ++ back) = blockBits front ++ blockBits back := by
  unfold blockBits
  rw [List.range_add, List.map_append, List.map_map]
  congr 1
  · refine List.map_congr_left fun i hi => ?_
    have hlt : i < v := List.mem_range.mp hi
    rw [BitVec.getMsbD_append, if_neg (Nat.not_le.mpr hlt)]
  · refine List.map_congr_left fun i _ => ?_
    rw [Function.comp_apply, BitVec.getMsbD_append, if_pos (Nat.le_add_right v i),
      Nat.add_sub_cancel_left]

/-- The six bits for the low bits of a byte. -/
def sixAt (rd : Disparity) (low : Nat) : BitVec 6 := rd.select (sixTable.getD low (0, 0))

/-- The four bits for the high bits of a byte, at the disparity behind the six. -/
def fourAt (rd : Disparity) (low high : Nat) : BitVec 4 := rd.select (fourForms rd low high)

theorem fourForms_cases (rd : Disparity) (low high : Nat) :
    fourForms rd low high = alternateFour ∨
      fourForms rd low high = fourTable.getD high alternateFour := by
  unfold fourForms
  split
  · exact Or.inl rfl
  · exact Or.inr rfl

theorem encodeByte_eq (rd : Disparity) (byte : UInt8) :
    let six := sixAt rd (byte.toNat % 32)
    let four := fourAt (rd.after six) (byte.toNat % 32) (byte.toNat / 32)
    encodeByte rd byte = (six ++ four, (rd.after six).after four) := rfl

theorem bits_encodeByte (rd : Disparity) (byte : UInt8) :
    let six := sixAt rd (byte.toNat % 32)
    Symbol.bits (encodeByte rd byte).1 =
      blockBits six ++ blockBits (fourAt (rd.after six) (byte.toNat % 32) (byte.toNat / 32)) := by
  rw [encodeByte_eq]
  exact blockBits_append _ _

theorem high_lt (byte : UInt8) : byte.toNat / 32 < 8 := by
  have hlt := byte.toNat_lt
  omega

end Downlink.LineCode
