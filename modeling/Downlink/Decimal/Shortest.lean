import Downlink.Decimal.Binary
import Downlink.Power

/-!
# The shortest decimal that reads back

A finite value is written with the fewest digits that still round to it, the nearest of those, and
without an exponent. The search runs on the decimal grids of one digit, two digits and so on: the
value's two neighbours on a grid are its only points that can fall into the interval of reals
rounding to the value, if any does.
-/

namespace Downlink.Decimal

/-- The reals that round to a value `exact / unit`, from `low / unit` to `high / unit`. The ends
belong to it when `closed`. -/
structure Interval where
  low : Nat
  exact : Nat
  high : Nat
  unit : Nat
  closed : Bool

/-- The interval of a positive value, in quarters of the distance to its neighbour. -/
def Interval.of (f : Format) (significand : Nat) (exponent : Int) : Interval :=
  let below := if f.narrowBelow significand exponent then 1 else 2
  let scale := twoTo (exponent - 2).toNat
  { low := (4 * significand - below) * scale
    exact := 4 * significand * scale
    high := (4 * significand + 2) * scale
    unit := twoTo (2 - exponent).toNat
    closed := significand % 2 == 0 }

/-- Whether `digits * 10 ^ power` rounds to the value. -/
def Interval.contains (i : Interval) (digits : Nat) (power : Int) : Bool :=
  let x := digits * tenTo power.toNat * i.unit
  let scale := tenTo (-power).toNat
  if i.closed then decide (i.low * scale ≤ x) && decide (x ≤ i.high * scale)
  else decide (i.low * scale < x) && decide (x < i.high * scale)

/-- The value's lower neighbour on the grid of multiples of `10 ^ power`. -/
def Interval.floor (i : Interval) (power : Int) : Nat :=
  i.exact * tenTo (-power).toNat / (i.unit * tenTo power.toNat)

/-- Whether the value is at least half way from `digits * 10 ^ power` to the next grid point. -/
def Interval.upperHalf (i : Interval) (digits : Nat) (power : Int) : Bool :=
  (2 * digits + 1) * tenTo power.toNat * i.unit ≤ 2 * i.exact * tenTo (-power).toNat

/-- The grid point to write, if a neighbour on this grid rounds to the value; of two the nearer. -/
def Interval.onGrid (i : Interval) (power : Int) : Option Nat :=
  let d := i.floor power
  match decide (0 < d) && i.contains d power, i.contains (d + 1) power with
  | true, true => some (if i.upperHalf d power then d + 1 else d)
  | true, false => some d
  | false, true => some (d + 1)
  | false, false => none

/-- The exponent `k` with `10 ^ (k - 1) ≤ value < 10 ^ k`. -/
def Interval.magnitude (i : Interval) : Int :=
  let whole := i.exact / i.unit
  if whole = 0 then
    -- the value is below one: count the zeros after the point
    let inverse := (i.unit - 1) / i.exact
    1 - ((toString inverse).length : Int)
  else (toString whole).length

/-- The coarsest of the next `fuel` grids from `power` downwards that has a point to write. -/
def Interval.search (i : Interval) : Nat → Int → Nat × Int
  | 0, power => (i.floor power, power)
  | fuel + 1, power =>
    match i.onGrid power with
    | some d => (d, power)
    | none => i.search fuel (power - 1)

/-- Digits and power of ten of the shortest decimal. Seventeen digits always suffice. -/
def shortestDigits (f : Format) (significand : Nat) (exponent : Int) : Nat × Int :=
  let i := Interval.of f significand exponent
  i.search 17 (i.magnitude - 1)

/-- Writes `digits * 10 ^ power` with a point and no exponent. -/
def positional (digits : Nat) (power : Int) : String :=
  if 0 ≤ power then toString (digits * tenTo power.toNat)
  else
    let places := (-power).toNat
    let text := (toString digits).toList
    let text := List.replicate (places + 1 - text.length) '0' ++ text
    let fraction := (text.drop (text.length - places)).reverse.dropWhile (· == '0') |>.reverse
    let whole := String.ofList (text.take (text.length - places))
    if fraction.isEmpty then whole else whole ++ "." ++ String.ofList fraction

/-- The shortest text of a value. -/
def Value.shortest (f : Format) : Value → String
  | .notANumber => "NaN"
  | .infinite negative => if negative then "-inf" else "inf"
  | .finite negative significand exponent =>
    let text :=
      if significand = 0 then "0"
      else
        let (digits, power) := shortestDigits f significand exponent
        positional digits power
    if negative then "-" ++ text else text

/-- The shortest text of a 64-bit float. -/
def shortest64 (x : Float) : String := (ofFloat x).shortest binary64

/-- The shortest text of a 32-bit float. -/
def shortest32 (x : Float32) : String := (ofFloat32 x).shortest binary32

end Downlink.Decimal
