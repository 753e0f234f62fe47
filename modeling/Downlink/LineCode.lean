import Downlink.Error

/-!
# The line code

A byte becomes a ten-bit symbol: its low five bits choose a sub-block of six bits, its high three
bits one of four. Most sub-blocks come in two forms, of which the running disparity, the balance of
ones and zeros sent so far, chooses. A flag symbol outside the data alphabet ends a frame. Bits go
out from the most significant one.
-/

namespace Downlink

/-- The balance of the bits sent so far. -/
inductive Disparity where
  /-- As many ones as zeros; the start of a session. -/
  | negative
  /-- Two more ones than zeros. -/
  | positive
  deriving DecidableEq, Repr

/-- A line symbol, its first bit on the left. -/
abbrev Symbol := BitVec 10

/-- One thing to send over the line. -/
inductive LineInput where
  | data (byte : UInt8)
  /-- The flag between frames. -/
  | endOfFrame
  deriving DecidableEq, Repr

/-- Reads a raw value: a byte, or -1 for the flag. -/
def LineInput.ofInt (value : Int) : Except Error LineInput :=
  if value = -1 then .ok .endOfFrame
  else if 0 ≤ value ∧ value ≤ 255 then .ok (.data (UInt8.ofNat value.toNat))
  else .error (.argument (.lineInput value))

/-- The number of ones. -/
def ones {w : Nat} (bits : BitVec w) : Nat :=
  (List.range w).countP fun i => bits.getLsbD i

namespace LineCode

/-- Six-bit sub-blocks by the low five bits, for negative and positive disparity. -/
def sixTable : Vector (BitVec 6 × BitVec 6) 32 := #v[
  (0b100111, 0b011000), (0b011101, 0b100010), (0b101101, 0b010010), (0b110001, 0b110001),
  (0b110101, 0b001010), (0b101001, 0b101001), (0b011001, 0b011001), (0b111000, 0b000111),
  (0b111001, 0b000110), (0b100101, 0b100101), (0b010101, 0b010101), (0b110100, 0b110100),
  (0b001101, 0b001101), (0b101100, 0b101100), (0b011100, 0b011100), (0b010111, 0b101000),
  (0b011011, 0b100100), (0b100011, 0b100011), (0b010011, 0b010011), (0b110010, 0b110010),
  (0b001011, 0b001011), (0b101010, 0b101010), (0b011010, 0b011010), (0b111010, 0b000101),
  (0b110011, 0b001100), (0b100110, 0b100110), (0b010110, 0b010110), (0b110110, 0b001001),
  (0b001110, 0b001110), (0b101110, 0b010001), (0b011110, 0b100001), (0b101011, 0b010100)]

/-- Four-bit sub-blocks by the high three bits, for negative and positive disparity. -/
def fourTable : Vector (BitVec 4 × BitVec 4) 8 := #v[
  (0b1011, 0b0100), (0b1001, 0b1001), (0b0101, 0b0101), (0b1100, 0b0011),
  (0b1101, 0b0010), (0b1010, 0b1010), (0b0110, 0b0110), (0b1110, 0b0001)]

/-- The form of the last four-bit sub-block that is sent where the usual one would make a run of
more than five equal bits. -/
def alternateFour : BitVec 4 × BitVec 4 := (0b0111, 0b1000)

/-- The flag for negative and positive disparity. -/
def flagForms : Symbol × Symbol := (0b0011111010, 0b1100000101)

end LineCode

namespace Disparity

/-- The form to send. -/
def select {α : Type} (rd : Disparity) (forms : α × α) : α :=
  match rd with
  | negative => forms.1
  | positive => forms.2

/-- The disparity after a sub-block. -/
def after {w : Nat} (rd : Disparity) (bits : BitVec w) : Disparity :=
  match compare (2 * ones bits) w with
  | .gt => positive
  | .lt => negative
  | .eq => rd

/-- The other disparity. -/
def flip : Disparity → Disparity
  | negative => positive
  | positive => negative

end Disparity

namespace LineCode

/-- Whether the last sub-block needs its alternate form behind a six-bit sub-block. -/
def needsAlternate (rd : Disparity) (low : Nat) : Bool :=
  match rd with
  | .negative => low == 17 || low == 18 || low == 20
  | .positive => low == 11 || low == 13 || low == 14

/-- The four-bit sub-block forms for the high bits `high` behind the low bits `low`. -/
def fourForms (rd : Disparity) (low high : Nat) : BitVec 4 × BitVec 4 :=
  if high == 7 && needsAlternate rd low then alternateFour
  else fourTable.getD high alternateFour

/-- The symbol of a byte and the disparity behind it. -/
def encodeByte (rd : Disparity) (byte : UInt8) : Symbol × Disparity :=
  let low := byte.toNat % 32
  let high := byte.toNat / 32
  let six := rd.select (sixTable.getD low (0, 0))
  let rd := rd.after six
  let four := rd.select (fourForms rd low high)
  (six ++ four, rd.after four)

/-- The symbol of an input and the disparity behind it. The flag turns the disparity. -/
def encode (rd : Disparity) : LineInput → Symbol × Disparity
  | .data byte => encodeByte rd byte
  | .endOfFrame => (rd.select flagForms, rd.flip)

/-- Reads a raw value and encodes it; a refused value leaves the disparity. -/
def encodeValue (rd : Disparity) (value : Int) : Except Error Symbol × Disparity :=
  match LineInput.ofInt value with
  | .ok input => let (symbol, rd) := encode rd input; (.ok symbol, rd)
  | .error e => (.error e, rd)

/-- The symbols of a run of inputs and the disparity behind them. -/
def encodeAll (rd : Disparity) : List LineInput → List Symbol × Disparity
  | [] => ([], rd)
  | input :: rest =>
    let (symbol, rd) := encode rd input
    let (symbols, rd) := encodeAll rd rest
    (symbol :: symbols, rd)

@[simp] theorem encodeAll_nil (rd : Disparity) : encodeAll rd [] = ([], rd) := rfl

theorem encodeAll_cons (rd : Disparity) (input : LineInput) (rest : List LineInput) :
    encodeAll rd (input :: rest) =
      ((encode rd input).1 :: (encodeAll (encode rd input).2 rest).1,
        (encodeAll (encode rd input).2 rest).2) := rfl

theorem encodeAll_append (rd : Disparity) (xs ys : List LineInput) :
    encodeAll rd (xs ++ ys) =
      ((encodeAll rd xs).1 ++ (encodeAll (encodeAll rd xs).2 ys).1,
        (encodeAll (encodeAll rd xs).2 ys).2) := by
  induction xs generalizing rd with
  | nil => rfl
  | cons x xs ih => simp [encodeAll_cons, ih]

@[simp] theorem length_encodeAll (rd : Disparity) (xs : List LineInput) :
    (encodeAll rd xs).1.length = xs.length := by
  induction xs generalizing rd with
  | nil => rfl
  | cons x xs ih => simp [encodeAll_cons, ih]

end LineCode

/-- The bits of a symbol in the order of sending. -/
def Symbol.bits (symbol : Symbol) : List Bool :=
  (List.range 10).map symbol.getMsbD

@[simp] theorem Symbol.length_bits (symbol : Symbol) : (Symbol.bits symbol).length = 10 := by
  simp [Symbol.bits]

end Downlink
