import Downlink.Decimal.Fixed
import Downlink.Decimal.Reading
import Downlink.Error
import Downlink.Power
import Downlink.Text.Blank

/-!
# The ground station

A station has a callsign, a count of resets and a position. Its description comes in two forms:
four words in a row, or lines of `key=value` with comments. A strict reading refuses a malformed
field; a lenient one puts zero in its place, and the defaults in place of a blank description.
-/

namespace Downlink

/-- What a description says about a station. -/
structure Station where
  callsign : String
  resetCount : UInt16
  /-- The latitude as described; zero when it was not given. -/
  latitude : Float
  longitude : Float

namespace Station

/-- The callsign of a station that has none. -/
def noCallsign : String := "NOCALL"

/-- The position of a station that has none. -/
def homeLatitude : Float := 41.462399
def homeLongitude : Float := -87.038309

/-- The station of a new installation. -/
def initial : Station :=
  { callsign := noCallsign, resetCount := 100, latitude := homeLatitude
    longitude := homeLongitude }

/-- Reset counts are counted modulo this. -/
def resetModulus : Nat := 0xFFFF

/-! ### Fields -/

/-- Reads a reset count. -/
def readResetCount (text : String) : Except Error UInt16 :=
  let text := Text.trim text
  match Decimal.unsigned? (twoTo 32) text with
  | some n => .ok (UInt16.ofNat (n % resetModulus))
  | none => .error (.station (.resetCount text))

/-- Reads a coordinate; `fault` is the cause of a refusal. -/
def readCoordinate (fault : String → StationFault) (text : String) : Except Error Float :=
  let text := Text.trim text
  match Decimal.float? text with
  | some x => .ok x
  | none => .error (.station (fault text))

/-- How a malformed field is treated. -/
inductive Strictness where
  | strict
  | lenient
  deriving DecidableEq, Repr

/-- A field that was read, or what stands in for it in a lenient reading. -/
def settle {α : Type} (s : Strictness) (fallback : α) (field : Except Error α) : Except Error α :=
  match s, field with
  | _, .ok x => .ok x
  | .lenient, .error _ => .ok fallback
  | .strict, .error e => .error e

/-- The reset count of a reading. -/
def resetField (s : Strictness) (text : String) : Except Error UInt16 :=
  settle s 0 (readResetCount text)

/-- The latitude of a reading. -/
def latitudeField (s : Strictness) (text : String) : Except Error Float :=
  settle s 0.0 (readCoordinate .latitude text)

/-- The longitude of a reading. -/
def longitudeField (s : Strictness) (text : String) : Except Error Float :=
  settle s 0.0 (readCoordinate .longitude text)

/-! ### Four words -/

/-- Reads a field if its word is there. -/
def optional {α : Type} (missing : α) (read : String → Except Error α) :
    Option String → Except Error α
  | none => .ok missing
  | some text => read text

/-- Reads callsign, reset count, latitude and longitude in a row; the last three may be missing. -/
def readWords (s : Strictness) (words : List String) : Except Error Station :=
  match words with
  | [] => .error (.station .blank)
  | callsign :: rest => do
    let resetCount ← optional 0 (resetField s) rest[0]?
    let latitude ← optional 0.0 (latitudeField s) rest[1]?
    let longitude ← optional 0.0 (longitudeField s) rest[2]?
    return { callsign, resetCount, latitude, longitude }

/-! ### Lines of keys and values -/

/-- Splits a line at its first equals sign. -/
def splitKey (line : List Char) : Option (String × String) :=
  if line.contains '=' then
    some (String.ofList (line.takeWhile (· != '=')),
      String.ofList ((line.dropWhile (· != '=')).drop 1))
  else none

/-- The letters and digits of a callsign. -/
def cleanCallsign (text : String) : String := String.ofList (text.toList.filter Char.isAlphanum)

/-- A station with one field replaced by what a key and its value say. An unknown key says
nothing. -/
def withField (s : Strictness) (station : Station) (key value : String) : Except Error Station :=
  if key = "callsign" then .ok { station with callsign := cleanCallsign value }
  else if key = "num_resets" then
    return { station with resetCount := ← resetField s value }
  else if key = "latitude" then
    return { station with latitude := ← latitudeField s value }
  else if key = "longitude" then
    return { station with longitude := ← longitudeField s value }
  else .ok station

/-- Reads one line. Blank lines, comments and lines without an equals sign say nothing. -/
def withLine (s : Strictness) (station : Station) (line : List Char) : Except Error Station :=
  let line := Text.trimOf line
  if line.head? = some '#' then .ok station
  else
    match splitKey line with
    | none => .ok station
    | some (key, value) => withField s station (Text.trim key) value

/-- The station before any line was read. -/
def unset : Station :=
  { callsign := noCallsign, resetCount := 0, latitude := 0.0, longitude := 0.0 }

/-- A callsign that came out empty counts as none. -/
def settleCallsign (station : Station) : Station :=
  if station.callsign.isEmpty then { station with callsign := noCallsign } else station

/-- Reads lines of keys and values; a later line replaces what an earlier one said. -/
def readKeyed (s : Strictness) (lines : List (List Char)) : Except Error Station := do
  return settleCallsign (← lines.foldlM (withLine s) unset)

/-! ### Whole descriptions -/

/-- Whether a description is in lines of keys and values: some line that is no comment has an
equals sign. -/
def isKeyed (text : String) : Bool :=
  (Text.linesOf text.toList).any fun line =>
    (Text.trimStart line).head? != some '#' && line.contains '='

/-- Reads a description in either form. -/
def readAs (s : Strictness) (text : String) : Except Error Station :=
  if isKeyed text then readKeyed s (Text.linesOf text.toList)
  else readWords s (Text.words text)

/-- Reads a description and refuses malformed fields. -/
def read (text : String) : Except Error Station := readAs .strict text

/-- Reads what can be read of a description. -/
def readLenient (text : String) : Station :=
  match readAs .lenient text with
  | .ok station => station
  | .error _ => initial

/-! ### Use -/

/-- The station after one more reset. -/
def countReset (s : Station) : Station :=
  { s with resetCount := UInt16.ofNat ((s.resetCount.toNat + 1) % resetModulus) }

/-- Whether the described position is one on the globe, off the equator, the poles and the
meridians of zero and 180 degrees. -/
def hasPosition (s : Station) : Bool :=
  let latitude := s.latitude.abs
  let longitude := s.longitude.abs
  decide (0.0 < latitude) && decide (latitude < 90.0) &&
    decide (0.0 < longitude) && decide (longitude < 180.0)

/-- The described position, or the one of a new installation. -/
def position (s : Station) : Float × Float :=
  if s.hasPosition then (s.latitude, s.longitude) else (homeLatitude, homeLongitude)

/-- A coordinate with four places, eight characters wide at least. -/
def coordinateText (x : Float) : String := (Decimal.ofFloat x).fixedPadded 8 4

/-- The description of a station as four words. -/
def render (s : Station) : String :=
  s.callsign ++ " " ++ toString s.resetCount.toNat ++ " " ++ coordinateText s.latitude ++ " " ++
    coordinateText s.longitude

end Station

end Downlink
