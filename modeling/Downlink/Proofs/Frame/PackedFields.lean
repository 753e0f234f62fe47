import Mathlib
import Downlink.Frame.PackedField

/-!
# Half bytes of packed fields

A field takes three half bytes in a row: a front field starts with the low half of its first byte, a
back field with the high half. Writing a field puts its three digits there and leaves every other
half byte alone, and reading puts the digits together again.
-/

namespace Downlink.PackedField

/-- The `n`-th half byte of a buffer, the low half of each byte in front. -/
def half? (buffer : List UInt8) (n : Nat) : Option Nat :=
  buffer[n / 2]?.map fun b => if n % 2 = 0 then b.toNat % 16 else b.toNat / 16

/-- The `i`-th half byte of a field, the least significant in front. -/
def digit (value : Int32) (i : Nat) : Nat := lowBits value / 16 ^ i % 16

/-- A field that starts at the `place`-th half byte takes the `n`-th. -/
abbrev Covers (place n : Nat) : Prop := place ≤ n ∧ n < place + 3

theorem digit_zero (value : Int32) : digit value 0 = lowBits value % 16 := by
  simp [digit]

theorem digit_one (value : Int32) : digit value 1 = lowBits value / 16 % 16 := by
  simp [digit]

theorem digit_two (value : Int32) : digit value 2 = lowBits value / 256 := by
  have hlt := lowBits_lt value
  simp only [digit]
  omega

theorem half?_low (buffer : List UInt8) (k : Nat) :
    half? buffer (2 * k) = buffer[k]?.map fun b => b.toNat % 16 := by
  have hindex : 2 * k / 2 = k := by omega
  have heven : 2 * k % 2 = 0 := by omega
  simp only [half?, hindex, heven, if_true]

theorem half?_high (buffer : List UInt8) (k : Nat) :
    half? buffer (2 * k + 1) = buffer[k]?.map fun b => b.toNat / 16 := by
  have hindex : (2 * k + 1) / 2 = k := by omega
  have hodd : (2 * k + 1) % 2 = 1 := by omega
  simp only [half?, hindex, hodd, Nat.one_ne_zero, if_false]

/-! ### Bytes after writing -/

section Bytes

variable (buffer : List UInt8) (k : Nat) (value : Int32)

theorem getElem?_writeFront_first :
    (writeFront buffer k value)[k]? =
      buffer[k]?.map fun _ => UInt8.ofNat (lowBits value % 256) := by
  have hne : k + 1 ≠ k := by omega
  rw [writeFront, List.getElem?_modify_ne _ _ hne, List.getElem?_set]
  by_cases hk : k < buffer.length
  · simp [hk]
  · simp [hk]

theorem getElem?_writeFront_second :
    (writeFront buffer k value)[k + 1]? =
      buffer[k + 1]?.map fun b => UInt8.ofNat (b.toNat / 16 * 16 + lowBits value / 256) := by
  rw [writeFront, List.getElem?_modify_eq, List.getElem?_set_ne (by omega), Option.map_eq_map]

theorem getElem?_writeFront_other (i : Nat) (hfirst : i ≠ k) (hsecond : i ≠ k + 1) :
    (writeFront buffer k value)[i]? = buffer[i]? := by
  rw [writeFront, List.getElem?_modify_ne _ _ hsecond.symm, List.getElem?_set_ne hfirst.symm]

theorem getElem?_writeBack_first :
    (writeBack buffer k value)[k]? =
      buffer[k]?.map fun b => UInt8.ofNat (b.toNat % 16 + lowBits value % 16 * 16) := by
  rw [writeBack, List.getElem?_set_ne (by omega), List.getElem?_modify_eq, Option.map_eq_map]

theorem getElem?_writeBack_second :
    (writeBack buffer k value)[k + 1]? =
      buffer[k + 1]?.map fun _ => UInt8.ofNat (lowBits value / 16) := by
  rw [writeBack, List.getElem?_set, List.length_modify]
  by_cases hk : k + 1 < buffer.length
  · simp [hk]
  · simp [hk]

theorem getElem?_writeBack_other (i : Nat) (hfirst : i ≠ k) (hsecond : i ≠ k + 1) :
    (writeBack buffer k value)[i]? = buffer[i]? := by
  rw [writeBack, List.getElem?_set_ne hsecond.symm, List.getElem?_modify_ne _ _ hfirst.symm]

end Bytes

/-! ### Half bytes after writing -/

/-- Which half of the two bytes from `k` on the `n`-th half byte is, if it is one of them. -/
theorem half_cases (k n : Nat) :
    n = 2 * k ∨ n = 2 * k + 1 ∨ n = 2 * (k + 1) ∨ n = 2 * (k + 1) + 1 ∨
      (n / 2 ≠ k ∧ n / 2 ≠ k + 1) := by
  omega

section Halves

variable (buffer : List UInt8) (k : Nat) (value : Int32)

theorem half?_writeFront (n : Nat) (h : n < 2 * buffer.length) :
    half? (writeFront buffer k value) n =
      if Covers (2 * k) n then some (digit value (n - 2 * k)) else half? buffer n := by
  obtain ⟨b, hb⟩ : ∃ b, buffer[n / 2]? = some b := ⟨_, List.getElem?_eq_getElem (by omega)⟩
  have hbyte := b.toNat_lt
  have hvalue := lowBits_lt value
  rcases half_cases k n with rfl | rfl | rfl | rfl | ⟨hfirst, hsecond⟩
  · have hindex : 2 * k / 2 = k := by omega
    rw [hindex] at hb
    rw [half?_low, getElem?_writeFront_first, hb, if_pos (by omega), Nat.sub_self, digit_zero]
    simp only [Option.map_some, UInt8.toNat_ofNat', Option.some.injEq]
    omega
  · have hindex : (2 * k + 1) / 2 = k := by omega
    rw [hindex] at hb
    rw [half?_high, getElem?_writeFront_first, hb, if_pos (by omega), Nat.add_sub_cancel_left,
      digit_one]
    simp only [Option.map_some, UInt8.toNat_ofNat', Option.some.injEq]
    omega
  · have hindex : 2 * (k + 1) / 2 = k + 1 := by omega
    have hplace : 2 * (k + 1) - 2 * k = 2 := by omega
    rw [hindex] at hb
    rw [half?_low, getElem?_writeFront_second, hb, if_pos (by omega), hplace, digit_two]
    simp only [Option.map_some, UInt8.toNat_ofNat', Option.some.injEq]
    omega
  · -- The high half of the second byte belongs to the field behind.
    have hindex : (2 * (k + 1) + 1) / 2 = k + 1 := by omega
    rw [hindex] at hb
    rw [half?_high, half?_high, getElem?_writeFront_second, hb, if_neg (by omega)]
    simp only [Option.map_some, UInt8.toNat_ofNat', Option.some.injEq]
    omega
  · rw [half?, half?, getElem?_writeFront_other buffer k value _ hfirst hsecond, if_neg (by omega)]

theorem half?_writeBack (n : Nat) (h : n < 2 * buffer.length) :
    half? (writeBack buffer k value) n =
      if Covers (2 * k + 1) n then some (digit value (n - (2 * k + 1))) else half? buffer n := by
  obtain ⟨b, hb⟩ : ∃ b, buffer[n / 2]? = some b := ⟨_, List.getElem?_eq_getElem (by omega)⟩
  have hbyte := b.toNat_lt
  have hvalue := lowBits_lt value
  rcases half_cases k n with rfl | rfl | rfl | rfl | ⟨hfirst, hsecond⟩
  · -- The low half of the first byte belongs to the field in front.
    have hindex : 2 * k / 2 = k := by omega
    rw [hindex] at hb
    rw [half?_low, half?_low, getElem?_writeBack_first, hb, if_neg (by omega)]
    simp only [Option.map_some, UInt8.toNat_ofNat', Option.some.injEq]
    omega
  · have hindex : (2 * k + 1) / 2 = k := by omega
    rw [hindex] at hb
    rw [half?_high, getElem?_writeBack_first, hb, if_pos (by omega), Nat.sub_self, digit_zero]
    simp only [Option.map_some, UInt8.toNat_ofNat', Option.some.injEq]
    omega
  · have hindex : 2 * (k + 1) / 2 = k + 1 := by omega
    have hplace : 2 * (k + 1) - (2 * k + 1) = 1 := by omega
    rw [hindex] at hb
    rw [half?_low, getElem?_writeBack_second, hb, if_pos (by omega), hplace, digit_one]
    simp only [Option.map_some, UInt8.toNat_ofNat', Option.some.injEq]
    omega
  · have hindex : (2 * (k + 1) + 1) / 2 = k + 1 := by omega
    have hplace : 2 * (k + 1) + 1 - (2 * k + 1) = 2 := by omega
    rw [hindex] at hb
    rw [half?_high, getElem?_writeBack_second, hb, if_pos (by omega), hplace, digit_two]
    simp only [Option.map_some, UInt8.toNat_ofNat', Option.some.injEq]
    omega
  · rw [half?, half?, getElem?_writeBack_other buffer k value _ hfirst hsecond, if_neg (by omega)]

end Halves

/-! ### Reading -/

/-- The half bytes from a place on are the digits of a value. -/
def Holds (buffer : List UInt8) (place : Nat) (value : Int32) : Prop :=
  ∀ n, Covers place n → half? buffer n = some (digit value (n - place))

theorem readFront?_of_holds (buffer : List UInt8) (k : Nat) (value : Int32)
    (h : Holds buffer (2 * k) value) : readFront? buffer k = some (lowBits value) := by
  have h₀ := h (2 * k) (by omega)
  have h₁ := h (2 * k + 1) (by omega)
  have h₂ := h (2 * (k + 1)) (by omega)
  have hplace : 2 * (k + 1) - 2 * k = 2 := by omega
  rw [half?_low, Nat.sub_self, digit_zero, Option.map_eq_some_iff] at h₀
  rw [half?_high, Nat.add_sub_cancel_left, digit_one] at h₁
  rw [half?_low, hplace, digit_two, Option.map_eq_some_iff] at h₂
  obtain ⟨b, hb, hlow⟩ := h₀
  obtain ⟨c, hc, hhigh⟩ := h₂
  rw [hb, Option.map_some, Option.some.injEq] at h₁
  rw [readFront?, hb, hc]
  simp only [Option.bind_eq_bind, Option.bind_some, Option.pure_def, Option.some.injEq, front]
  omega

theorem readBack?_of_holds (buffer : List UInt8) (k : Nat) (value : Int32)
    (h : Holds buffer (2 * k + 1) value) : readBack? buffer k = some (lowBits value) := by
  have h₀ := h (2 * k + 1) (by omega)
  have h₁ := h (2 * (k + 1)) (by omega)
  have h₂ := h (2 * (k + 1) + 1) (by omega)
  have hplace₁ : 2 * (k + 1) - (2 * k + 1) = 1 := by omega
  have hplace₂ : 2 * (k + 1) + 1 - (2 * k + 1) = 2 := by omega
  rw [half?_high, Nat.sub_self, digit_zero, Option.map_eq_some_iff] at h₀
  rw [half?_low, hplace₁, digit_one, Option.map_eq_some_iff] at h₁
  rw [half?_high, hplace₂, digit_two] at h₂
  obtain ⟨b, hb, hlow⟩ := h₀
  obtain ⟨c, hc, hmiddle⟩ := h₁
  rw [hc, Option.map_some, Option.some.injEq] at h₂
  rw [readBack?, hb, hc]
  simp only [Option.bind_eq_bind, Option.bind_some, Option.pure_def, Option.some.injEq, back]
  omega

/-! ### Bits -/

theorem half?_zeros (size n : Nat) (h : n < 2 * size) :
    half? (List.replicate size 0) n = some 0 := by
  rw [half?, List.getElem?_replicate, if_pos (by omega)]
  simp

theorem testBit_of_half?_eq_zero (buffer : List UInt8) (n : Nat) (b : UInt8)
    (hb : buffer[n / 8]? = some b) (h : half? buffer (n / 4) = some 0) :
    b.toNat.testBit (n % 8) = false := by
  have hindex : n / 4 / 2 = n / 8 := by omega
  rw [half?, hindex, hb, Option.map_some, Option.some.injEq] at h
  by_cases hlow : n / 4 % 2 = 0
  · rw [if_pos hlow] at h
    have hbit := Nat.testBit_mod_two_pow b.toNat 4 (n % 8)
    have hlt : n % 8 < 4 := by omega
    rwa [h, Nat.zero_testBit, decide_eq_true hlt, Bool.true_and, eq_comm] at hbit
  · rw [if_neg hlow] at h
    have hbit := Nat.testBit_div_two_pow b.toNat (n % 8 - 4) (n := 4)
    have hplace : n % 8 - 4 + 4 = n % 8 := by omega
    rwa [h, Nat.zero_testBit, hplace, eq_comm] at hbit

end Downlink.PackedField
