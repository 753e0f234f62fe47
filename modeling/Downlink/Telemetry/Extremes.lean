import Downlink.Telemetry.Readings

/-!
# Extremes

A session keeps the least and the greatest value of every entry. Before anything was folded in, the
least value is 1000 and the greatest -1000. A comparison with no number is false, so such a value
never enters. Payload values count only when the payload board's answer was valid.
-/

namespace Downlink

/-- The least and greatest value of `n` entries. -/
structure Span (n : Nat) where
  least : Vector Float32 n
  greatest : Vector Float32 n

namespace Span

/-- The least value before anything was folded in. -/
def unseenLeast : Float32 := 1000.0

/-- The greatest value before anything was folded in. -/
def unseenGreatest : Float32 := -1000.0

/-- Nothing folded in. -/
def unseen (n : Nat) : Span n :=
  ⟨Vector.replicate n unseenLeast, Vector.replicate n unseenGreatest⟩

/-- The lesser of a bound and a value. -/
def lower (bound value : Float32) : Float32 := if value < bound then value else bound

/-- The greater of a bound and a value. -/
def raise (bound value : Float32) : Float32 := if bound < value then value else bound

/-- Folds in one value for every entry. -/
def fold {n : Nat} (s : Span n) (values : Vector Float32 n) : Span n :=
  ⟨Vector.zipWith lower s.least values, Vector.zipWith raise s.greatest values⟩

end Span

/-- The extremes of all readings of a session. -/
structure Extremes where
  voltage : Span powerChannels
  current : Span powerChannels
  sensor : Span payloadSensors
  other : Span otherValues

namespace Extremes

/-- The extremes before the first poll. -/
def unseen : Extremes :=
  { voltage := .unseen powerChannels
    current := .unseen powerChannels
    sensor := .unseen payloadSensors
    other := .unseen otherValues }

/-- Folds in the readings of a poll. -/
def fold (e : Extremes) (r : Readings) : Extremes :=
  { voltage := e.voltage.fold r.voltage
    current := e.current.fold r.current
    sensor := if r.payloadValid then e.sensor.fold r.sensor else e.sensor
    other := e.other.fold r.other }

/-- The seen bounds; where nothing was seen, the present values. -/
def seenOr {n : Nat} (unseen : Float32) (bounds present : Vector Float32 n) : Vector Float32 n :=
  Vector.zipWith (fun bound value => if bound != unseen then bound else value) bounds present

/-- Readings with every value replaced by its least one. -/
def leastReadings (e : Extremes) (r : Readings) : Readings :=
  { r with
    voltage := e.voltage.least
    current := e.current.least
    sensor := seenOr Span.unseenLeast e.sensor.least r.sensor
    other := e.other.least }

/-- Readings with every value replaced by its greatest one. -/
def greatestReadings (e : Extremes) (r : Readings) : Readings :=
  { r with
    voltage := e.voltage.greatest
    current := e.current.greatest
    sensor := seenOr Span.unseenGreatest e.sensor.greatest r.sensor
    other := e.other.greatest }

end Extremes

end Downlink
