import Downlink.Decimal.Fixed
import Downlink.Draw
import Downlink.Telemetry.Readings
import Downlink.Text.Blank

/-!
# Text packets

Text modes carry six channels of four two-digit values, each sent as a group of three digits with
the channel's number in front. Packets for packet radio lead with the position of the station;
Morse messages lead with a greeting.
-/

namespace Downlink

/-- The two-digit values by channel. -/
structure TextTelemetry where
  channels : Vector (Vector Int 4) 6
  deriving DecidableEq, Repr

namespace TextTelemetry

/-- The tens of a two-digit number, zero for any other. -/
def upperDigit (n : Int) : Int := if 0 ≤ n ∧ n < 100 then n / 10 else 0

/-- The units of a two-digit number, zero for any other. -/
def lowerDigit (n : Int) : Int := if 0 ≤ n ∧ n < 100 then n % 10 else 0

/-- The last two digits of a value without its fraction, with the value's sign. -/
def twoDigits (x : Float) : Int := (Truncation.signed64 32 x).tmod 100

/-- Panel currents count down from 99. -/
def panelValue (current : Float32) : Int := twoDigits (99.5 - current.toFloat / 10.0)

/-- Scales readings to two digits; the last value is drawn. -/
def ofReadings {γ : Type} [Generator γ] (r : Readings) (m : ChannelMap)
    (computerTemperature : Float32) : Draw γ TextTelemetry := do
  let panel := fun c => panelValue (r.currentOf m c)
  let busVolts := (r.voltageOf m .bus).toFloat
  let batteryVolts := (r.voltageOf m .battery).toFloat
  let batteryAmps := (r.currentOf m .battery).toFloat
  let drawn ← Draw.integer false 0 2
  return ⟨#v[
    #v[twoDigits (busVolts / 15.0 + 0.5), panel .plusX, panel .minusX, panel .plusY],
    #v[panel .minusY, panel .plusZ, panel .minusZ, twoDigits (50.5 + batteryAmps / 10.0)],
    #v[(twoDigits (batteryVolts * 10.0 - 65.5)).natAbs, twoDigits (busVolts * 10.0), 0, 0],
    #v[0, twoDigits ((95.8 - computerTemperature.toFloat) / 1.48 + 0.5), 0, 0],
    #v[0, 0, 0, 0],
    #v[0, 0, 0, 49 + drawn]]⟩

/-- The group of a value: the channel's number and two digits. Values beyond two digits count as
the nearest that has two. -/
def group (channel : Nat) (value : Int) : String :=
  let value := max 0 (min value 99)
  toString channel ++ toString (upperDigit value) ++ toString (lowerDigit value) ++ " "

/-- The groups of all values, channels counted from one. -/
def groups (t : TextTelemetry) : String :=
  String.join (t.channels.toList.zipIdx.flatMap fun (values, k) =>
    values.toList.map (group (k + 1)))

end TextTelemetry

namespace Packet

/-- The latitude in hundredths with its hemisphere, in eight characters at least. -/
def latitudeText (latitude : Float) : String :=
  if 0.0 < latitude then (Decimal.ofFloat (latitude * 100.0)).fixedPadded 7 2 ++ "N"
  else (Decimal.ofFloat (latitude * -100.0)).fixedPadded 7 2 ++ "S"

/-- The longitude in hundredths with its hemisphere, in nine characters at least. -/
def longitudeText (longitude : Float) : String :=
  if 0.0 < longitude then (Decimal.ofFloat (longitude * 100.0)).fixedZeros 8 2 ++ "E"
  else (Decimal.ofFloat (longitude * -100.0)).fixedZeros 8 2 ++ "W"

/-- A position report. The separator is doubled for the packet generator, which unquotes it. -/
def positionText (latitude longitude : Float) : String :=
  latitudeText latitude ++ "\\\\" ++ longitudeText longitude

/-- A packet: position report, groups and the answer of the payload board. -/
def report (callsign : String) (latitude longitude : Float) (t : TextTelemetry)
    (payload : Option String) : String :=
  callsign ++ ">CQ:=" ++ positionText latitude longitude ++ "Shi hi " ++ t.groups ++
    (match payload with
      | some text => Text.dropLineEnds text
      | none => "")

/-- The short packet behind every report. -/
def beacon (callsign : String) : String := callsign ++ ">CQ:010101/hi hi "

/-- A Morse message: greeting and groups. -/
def message (t : TextTelemetry) : String := "hi hi " ++ t.groups

/-- The values of the payload board as they stand in a packet, if its answer was valid. -/
def payloadText (r : Readings) : Option String :=
  let text := fun places x => " " ++ (Decimal.ofFloat32 x).fixed places
  if r.payloadValid then
    some ("OK" ++ text 1 r.temperature ++ text 1 r.pressure ++ text 1 r.altitude ++
      text 0 r.humidity ++ text 1 r.gyroX ++ text 1 r.gyroY ++ text 1 r.gyroZ ++
      text 2 r.accelX ++ text 2 r.accelY ++ text 2 r.accelZ)
  else none

end Packet

end Downlink
