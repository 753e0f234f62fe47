import Downlink.Decimal.Reading
import Downlink.Storage
import Downlink.Text.Blank

/-!
# Files of the onboard computer

The computer's temperature stands in a file in thousandths of a degree, the seconds since it
started in the first word of another.
-/

namespace Downlink.Sensor

/-- The temperature in degrees. -/
def temperature (name : String) (e : Entry) : Except Error Float32 := do
  match Decimal.float? (Text.trim (← e.readText)) with
  | some milli => return (milli / 1000.0).toFloat32
  | none => throw (.sensor (.temperature name))

/-- The whole seconds since the computer started. -/
def uptime (name : String) (e : Entry) : Except Error UInt32 := do
  match (Text.words (← e.readText)).head?.bind Decimal.float? with
  | some seconds => return seconds.toUInt32
  | none => throw (.sensor (.uptime name))

end Downlink.Sensor
