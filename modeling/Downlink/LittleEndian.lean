/-!
# Numbers as bytes

Numbers are written with the least significant byte in front.
-/

namespace Downlink.LittleEndian

/-- The low `n` bytes of a number. -/
def bytes : Nat → Nat → List UInt8
  | 0, _ => []
  | n + 1, value => UInt8.ofNat value :: bytes n (value / 256)

@[simp] theorem length_bytes (n value : Nat) : (bytes n value).length = n := by
  induction n generalizing value with
  | zero => rfl
  | succ n ih => simp [bytes, ih]

/-- The number that bytes write. -/
def value : List UInt8 → Nat
  | [] => 0
  | b :: rest => b.toNat + 256 * value rest

theorem value_bytes (n value : Nat) :
    LittleEndian.value (bytes n value) = value % Nat.pow 256 n := by
  induction n generalizing value with
  | zero => simp [bytes, LittleEndian.value, Nat.mod_one]
  | succ n ih =>
    simp only [bytes, LittleEndian.value, ih, UInt8.toNat_ofNat']
    rw [show Nat.pow 256 (n + 1) = 256 * Nat.pow 256 n from Nat.mul_comm _ _, Nat.mod_mul]

theorem value_lt (bs : List UInt8) : value bs < Nat.pow 256 bs.length := by
  induction bs with
  | nil => simp [value]
  | cons b rest ih =>
    have hb := b.toNat_lt
    have hpow : Nat.pow 256 (b :: rest).length = 256 * Nat.pow 256 rest.length := Nat.mul_comm _ _
    rw [value, hpow]
    omega

theorem bytes_value (bs : List UInt8) : bytes bs.length (value bs) = bs := by
  induction bs with
  | nil => rfl
  | cons b rest ih =>
    have hb := b.toNat_lt
    have hhead : UInt8.ofNat (b.toNat + 256 * value rest) = b := by
      apply UInt8.toNat_inj.mp
      rw [UInt8.toNat_ofNat']
      omega
    have htail : (b.toNat + 256 * value rest) / 256 = value rest := by omega
    rw [List.length_cons, value, bytes, hhead, htail, ih]

end Downlink.LittleEndian
