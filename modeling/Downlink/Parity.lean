import Downlink.Error
import Downlink.Field

/-!
# Parity of a codeword

A codeword holds up to 223 information bytes and 32 parity bytes. The parity bytes are the remainder
of the information, as a polynomial with the first byte in front, times `x^32` by the generator; a
shorter codeword is one with zeros in front. The remainder is kept in a register that takes one
byte at a time. The generator reads the same from both ends, so half of it is stored.
-/

namespace Downlink

/-- Information bytes of a full codeword. -/
def informationBytes : Nat := 223

/-- Parity bytes of a codeword. -/
def parityBytes : Nat := 32

/-- The parity bytes of a codeword, the first to send in front. -/
abbrev Parity := Vector UInt8 parityBytes

/-- Exponents of the generator's coefficients, from either end to the middle. -/
def generatorHalf : Vector UInt8 17 :=
  #v[0, 249, 59, 66, 4, 43, 126, 251, 97, 30, 3, 213, 50, 66, 170, 5, 24]

/-- The generator's coefficient at a position from 0 to 32. -/
def generatorAt (i : Nat) : UInt8 :=
  Field.antilog (generatorHalf.getD (min i (parityBytes - i)) Field.logZero)

/-- Exponents of the generator's roots: steps of 11 from 11 times 112. -/
def rootExponent (i : Nat) : Nat := 11 * (112 + i)

/-- A codeword under construction. -/
structure ParityRegister where
  /-- The remainder of the bytes taken so far. -/
  parity : Parity
  /-- How many information bytes were taken. -/
  count : Nat
  deriving DecidableEq, Repr

namespace ParityRegister

/-- A register that has taken no bytes. -/
def empty : ParityRegister := ⟨Vector.replicate parityBytes 0, 0⟩

/-- The remainder after one more information byte: the leading coefficient of the sum is cleared by
a multiple of the generator, and everything moves one place up. -/
def shift (parity : Parity) (byte : UInt8) : Parity :=
  let lead := byte ^^^ parity.getD 0 0
  Vector.ofFn fun i => parity.getD (i.val + 1) 0 ^^^ Field.mul lead (generatorAt (i.val + 1))

/-- Takes one information byte; a full codeword takes none. -/
def feed (r : ParityRegister) (byte : UInt8) : Except Error ParityRegister :=
  if informationBytes ≤ r.count then .error (.codewordOverflow r.count)
  else .ok ⟨shift r.parity byte, r.count + 1⟩

/-- Takes information bytes as far as they fit. What was taken before a refusal stays. -/
def feedAll (r : ParityRegister) : List UInt8 → Except Error Unit × ParityRegister
  | [] => (.ok (), r)
  | byte :: rest =>
    match r.feed byte with
    | .ok r => r.feedAll rest
    | .error e => (.error e, r)

@[simp] theorem feedAll_nil (r : ParityRegister) : r.feedAll [] = (.ok (), r) := rfl

/-- Whether no information byte was taken. -/
def isEmpty (r : ParityRegister) : Bool := r.count == 0

end ParityRegister

/-- The parity bytes of a block of information bytes. -/
def parityOf (data : List UInt8) : Except Error Parity :=
  match ParityRegister.empty.feedAll data with
  | (.ok (), r) => .ok r.parity
  | (.error e, _) => .error e

/-! ### Received codewords -/

/-- The value of a byte string as a polynomial, the first byte in front. -/
def polynomialAt (x : UInt8) (bytes : List UInt8) : UInt8 :=
  bytes.foldl (fun acc b => Field.mul acc x ^^^ b) 0

/-- The values of a codeword at the generator's roots, all zero if it was received as sent. -/
def syndromes (codeword : List UInt8) : List UInt8 :=
  (List.range parityBytes).map fun i => polynomialAt (Field.alphaPow (rootExponent i)) codeword

end Downlink
