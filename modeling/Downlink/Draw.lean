import Downlink.Truncation

/-!
# Random draws

A generator is a state from which integers are drawn. Whatever draws takes a generator of any kind;
the seeded stream is the one that the program runs on.
-/

namespace Downlink

/-- A state that random integers are drawn from. -/
class Generator (γ : Type) where
  /-- Draws an integer of 32 bits, or of 64 if it is wide, from `low` to `high`, both included. -/
  integer (wide : Bool) (low high : Int) (state : γ) : Int × γ

/-- A computation that draws random numbers. -/
abbrev Draw (γ : Type) := StateM γ

namespace Draw

variable {γ : Type} [Generator γ]

/-- An integer from `low` to `high`, both included. -/
def integer (wide : Bool) (low high : Int) : Draw γ Int := Generator.integer wide low high

/-- An integer as a 64-bit float. -/
def real (n : Int) : Float :=
  if n < 0 then -(n.natAbs.toUInt64.toFloat) else n.natAbs.toUInt64.toFloat

/-- The bounds of a draw in hundredths. -/
def hundredthBounds (min max : Float) : Int × Int :=
  (Truncation.signed64 64 (min * 100.0), Truncation.signed64 64 (max * 100.0))

/-- A value with two places between two bounds, both included. -/
def hundredths (min max : Float) : Draw γ Float := do
  let (low, high) := hundredthBounds min max
  return real (← integer true low high) / 100.0

/-- A value with two places, if there is one between the bounds. -/
def hundredths? (min max : Float) : Option (Draw γ Float) :=
  let (low, high) := hundredthBounds min max
  if high < low then none else some (hundredths min max)

end Draw

end Downlink
