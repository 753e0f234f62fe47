import Downlink.Error

/-!
# The battery check

A battery that reads as connected but lies below the threshold ends a session. Before that, the
transmit lamp goes out and the power lamp blinks.
-/

namespace Downlink

/-- A change of a lamp. -/
inductive Lamp where
  | transmit (on : Bool)
  | power (on : Bool)
  deriving DecidableEq, Repr

namespace Battery

/-- At or below this voltage no battery is connected. -/
def presentVolts : Float32 := 1.0

/-- Whether a battery is connected and too low. -/
def isLow (volts threshold : Float32) : Bool :=
  decide (presentVolts < volts) && decide (volts < threshold)

/-- The lamps before a shutdown. -/
def shutdownLamps : List Lamp :=
  [.transmit false, .power false, .power true, .power false, .power true, .power false]

/-- Refuses a battery that is too low; the lamps that this changes. -/
def check (volts threshold : Float32) : Except Error Unit × List Lamp :=
  if isLow volts threshold then (.error (.batteryLow volts threshold), shutdownLamps)
  else (.ok (), [])

end Battery

end Downlink
