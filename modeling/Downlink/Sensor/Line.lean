import Downlink.Decimal.Reading
import Downlink.Telemetry.Readings
import Downlink.Text.Blank

/-!
# Lines from readers

The power reader prints voltages and currents in turn; the payload board answers `OK` and its
values. A malformed value counts as far as it looks like a number.
-/

namespace Downlink.Sensor

/-- How much of a token looks like a number: a sign in front, then digits and points. -/
def numberSpan : List Char → List Char
  | [] => []
  | c :: rest =>
    let inside := fun c : Char => c.isDigit || c == '.'
    if inside c || c == '-' || c == '+' then c :: rest.takeWhile inside else []

/-- The number that a token stands for: its own value, or the value of the part in front that looks
like a number, or zero. -/
def number (token : List Char) : Float32 :=
  match Decimal.Literal.ofChars? token with
  | some l => l.toFloat32
  | none =>
    match Decimal.Literal.ofChars? (numberSpan token) with
    | some l => l.toFloat32
    | none => 0.0

/-- The first `n` values, with zeros behind the last one. -/
def firstValues (n : Nat) (values : List Float32) : Vector Float32 n :=
  Vector.ofFn fun i => values.getD i.val 0.0

/-- The values at even places. -/
def evens : List Float32 → List Float32
  | [] => []
  | [x] => [x]
  | x :: _ :: rest => x :: evens rest

/-- The values at odd places. -/
def odds : List Float32 → List Float32
  | [] => []
  | [_] => []
  | _ :: y :: rest => y :: odds rest

/-- A small negative current is noise around zero. -/
def denoise (current : Float32) : Float32 :=
  if current < 0.0 ∧ -0.5 < current then -current else current

/-- Reads voltages and currents. Values that are missing are zero. -/
def powerLine (line : String) :
    Vector Float32 powerChannels × Vector Float32 powerChannels :=
  let values := (Text.wordsOf line.toList).map number
  (firstValues powerChannels (evens values),
    (firstValues powerChannels (odds values)).map denoise)

/-- Reads the answer of the payload board. The word in front stands in the first place. -/
def payloadLine (line : String) : Option (Vector Float32 payloadSensors) :=
  if "OK".toList.isPrefixOf line.toList then
    some (firstValues payloadSensors ((Text.wordsOf line.toList).map number))
  else none

end Downlink.Sensor
