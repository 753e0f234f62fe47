import Downlink.Draw
import Downlink.Power

/-!
# Seeded random numbers

A seed is stretched to a key of eight words, one step of a congruential generator to a word. The
key drives a stream cipher of twelve rounds, whose output words are the random numbers: block after
block, under a counter that starts at zero. Numbers in a range are drawn without bias, by widening
multiplication and rejection.
-/

namespace Downlink

/-- What is left of a random stream. -/
structure RandomStream where
  key : Vector UInt32 8
  /-- The block to make next. -/
  counter : UInt64
  /-- Words of the last block that were not drawn. -/
  words : List UInt32
  deriving DecidableEq, Repr

namespace RandomStream

/-! ### Seeding -/

/-- One key word from a generator state. -/
def keyWord (state : UInt64) : UInt32 :=
  let x := (((state >>> 18) ^^^ state) >>> 27).toUInt32
  let turn := (state >>> 59).toUInt32
  (x >>> turn) ||| (x <<< ((32 - turn) &&& 31))

/-- The next generator state. -/
def nextState (state : UInt64) : UInt64 := state * 6364136223846793005 + 11634580027462260723

/-- The next `n` key words behind a generator state. -/
def keyWords : Nat → UInt64 → List UInt32
  | 0, _ => []
  | n + 1, state => keyWord (nextState state) :: keyWords n (nextState state)

theorem length_keyWords (n : Nat) (state : UInt64) : (keyWords n state).length = n := by
  induction n generalizing state with
  | zero => rfl
  | succ n ih => simp [keyWords, ih]

/-- The stream of a seed. -/
def ofSeed (seed : UInt64) : RandomStream :=
  { key := ⟨(keyWords 8 seed).toArray, by simp [length_keyWords]⟩, counter := 0, words := [] }

/-! ### Blocks -/

/-- The words that a block works on. -/
abbrev Block := Vector UInt32 16

/-- Rotates a word to the left. -/
def rotate (x n : UInt32) : UInt32 := (x <<< n) ||| (x >>> (32 - n))

/-- Mixes four words of a block. -/
def quarter (a b c d : Fin 16) (s : Block) : Block :=
  let step := fun (s : Block) (a b d : Fin 16) (n : UInt32) =>
    let s := s.set a (s.get a + s.get b)
    s.set d (rotate (s.get d ^^^ s.get a) n)
  let s := step s a b d 16
  let s := step s c d b 12
  let s := step s a b d 8
  step s c d b 7

/-- Two rounds: the columns, then the diagonals. -/
def doubleRound (s : Block) : Block :=
  let s := quarter 3 7 11 15 (quarter 2 6 10 14 (quarter 1 5 9 13 (quarter 0 4 8 12 s)))
  quarter 3 4 9 14 (quarter 2 7 8 13 (quarter 1 6 11 12 (quarter 0 5 10 15 s)))

/-- The block before mixing: constants, key, counter and an empty nonce. -/
def initialBlock (key : Vector UInt32 8) (counter : UInt64) : Block :=
  #v[0x61707865, 0x3320646E, 0x79622D32, 0x6B206574,
    key[0], key[1], key[2], key[3], key[4], key[5], key[6], key[7],
    counter.toUInt32, (counter >>> 32).toUInt32, 0, 0]

/-- The output words of a block. -/
def block (key : Vector UInt32 8) (counter : UInt64) : Block :=
  let start := initialBlock key counter
  let mixed := doubleRound (doubleRound (doubleRound (doubleRound (doubleRound
    (doubleRound start)))))
  Vector.zipWith (· + ·) mixed start

/-! ### Draws -/

/-- The next word. -/
def word (s : RandomStream) : UInt32 × RandomStream :=
  match s.words with
  | w :: rest => (w, { s with words := rest })
  | [] =>
    match (block s.key s.counter).toList with
    | w :: rest => (w, { s with counter := s.counter + 1, words := rest })
    | [] => (0, s)

/-- The next two words, the low one first. -/
def doubleWord (s : RandomStream) : UInt64 × RandomStream :=
  let (low, s) := s.word
  let (high, s) := s.word
  (high.toUInt64 <<< 32 ||| low.toUInt64, s)

/-- The next number of 32 or 64 bits. -/
def raw (wide : Bool) (s : RandomStream) : Nat × RandomStream :=
  if wide then let (x, s) := s.doubleWord; (x.toNat, s)
  else let (x, s) := s.word; (x.toNat, s)

/-- How many bits a raw number has. -/
def width (wide : Bool) : Nat := if wide then 64 else 32

/-- Draws until the low half of a product is in the accepted zone, at most `fuel` times, and gives
the high half. -/
def accept (wide : Bool) (range zone : Nat) : Nat → RandomStream → Nat × RandomStream
  | 0, s => (0, s)
  | fuel + 1, s =>
    let (x, s) := s.raw wide
    let product := x * range
    if product % twoTo (width wide) ≤ zone then (product / twoTo (width wide), s)
    else accept wide range zone fuel s

/-- Each draw is accepted with a chance above one half, so this many are never all refused. -/
def patience : Nat := 4096

/-- A number below `range`, which lies above zero and below the whole width. -/
def below (wide : Bool) (range : Nat) (s : RandomStream) : Nat × RandomStream :=
  accept wide range (range * twoTo (width wide - 1 - range.log2) - 1) patience s

/-- An integer from `low` to `high`, both included. When these are all the integers of the width,
it is the raw number. -/
def integer (wide : Bool) (low high : Int) (s : RandomStream) : Int × RandomStream :=
  let range := (high - low + 1).toNat
  if range < twoTo (width wide) then
    let (n, s) := s.below wide range
    (low + n, s)
  else
    let (n, s) := s.raw wide
    (Int.bmod n (twoTo (width wide)), s)

/-- Where no other generator is asked for, draws are from seeded streams. -/
@[default_instance]
instance : Generator RandomStream where
  integer := integer

end RandomStream

end Downlink
