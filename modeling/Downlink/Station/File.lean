import Downlink.Station
import Downlink.Storage

/-!
# The station file

A station is kept in a file and counts its starts there. The file is made with the defaults when
there is none, and what it holds is read leniently.
-/

namespace Downlink.Station

/-- Writes the description of a station. -/
def save (s : Station) (e : Entry) : Except Error Unit × Entry := e.writeText s.render

/-- Reads the station file, or makes one. -/
def load (e : Entry) : Except Error Station × Entry :=
  if e.occupied then
    match e.readText with
    | .ok text => (.ok (readLenient text), e)
    | .error fault => (.error fault, e)
  else
    match initial.save e with
    | (.ok (), e) => (.ok initial, e)
    | (.error fault, e) => (.error fault, e)

/-- Counts a start: reads the file, counts one more reset and writes it back. -/
def recordReset (e : Entry) : Except Error Station × Entry :=
  match load e with
  | (.error fault, e) => (.error fault, e)
  | (.ok station, e) =>
    match station.countReset.save e with
    | (.ok (), e) => (.ok station.countReset, e)
    | (.error fault, e) => (.error fault, e)

end Downlink.Station
