/-!
# The field of the block code

Bytes are the elements of the field with 256 elements, polynomials over two elements modulo
`x^8 + x^7 + x^2 + x + 1`. Its nonzero elements are the powers of `alpha`, the byte 2, with
exponents from 0 to 254; the exponent 255 stands for the logarithm of zero.
-/

namespace Downlink.Field

/-- The number of nonzero elements. -/
def order : Nat := 255

/-- The exponent that stands for the logarithm of zero. -/
def logZero : UInt8 := 255

/-- The product of an element with `alpha`. -/
def timesAlpha (x : UInt8) : UInt8 :=
  if x &&& 0x80 = 0 then x <<< 1 else (x <<< 1) ^^^ 0x87

/-- The first `n` terms of the sequence that starts with `x` and goes on by `alpha`. -/
def powersFrom : Nat → UInt8 → List UInt8
  | 0, _ => []
  | n + 1, x => x :: powersFrom n (timesAlpha x)

@[simp] theorem length_powersFrom (n : Nat) (x : UInt8) : (powersFrom n x).length = n := by
  induction n generalizing x with
  | zero => rfl
  | succ n ih => simp [powersFrom, ih]

/-- The powers of `alpha` by exponent, and zero at the exponent of zero. -/
def antilogTable : Vector UInt8 256 :=
  ⟨(powersFrom order 1 ++ [0]).toArray, by simp [order]⟩

/-- The exponents of the elements; zero has the exponent of zero. -/
def logTable : Vector UInt8 256 :=
  Vector.ofFn fun x =>
    match antilogTable.toList.findIdx? (· == UInt8.ofNat x.val) with
    | some e => UInt8.ofNat e
    | none => logZero

/-- The power of `alpha` with an exponent; zero for the exponent of zero. -/
def antilog (e : UInt8) : UInt8 := antilogTable.get e.toFin

/-- The exponent of an element. -/
def log (x : UInt8) : UInt8 := logTable.get x.toFin

/-- Folds an exponent below 255 without a division: take off 255, then add the high part to the
low byte, which differs from it by a multiple of 255. -/
def reduceExponent (e : Nat) : Nat :=
  if order ≤ e then
    let rest := e - order
    reduceExponent (rest / 256 + rest % 256)
  else e
  termination_by e
  decreasing_by simp only [order] at *; omega

/-- The product of two elements, by adding exponents. -/
def mul (a b : UInt8) : UInt8 :=
  if a = 0 ∨ b = 0 then 0
  else antilog (UInt8.ofNat (reduceExponent ((log a).toNat + (log b).toNat)))

/-- The `n`-th power of `alpha`. -/
def alphaPow (n : Nat) : UInt8 := antilog (UInt8.ofNat (reduceExponent n))

end Downlink.Field
