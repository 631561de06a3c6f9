import Lodging.Decimal.Numeral
import Lodging.Listing.Query
import Lodging.Text.Ascii
import Lodging.Text.Quoted
import Lodging.Web.Params

/-!
# The parameters of a search

How a search is written as a query. Numbers of the location are taken as text, and one that is no
finite number counts as absent. What else is wrong with the parameters is listed by parameter, in
alphabetical order.
-/

namespace Lodging.Web

structure SearchParams where
  lat : Option String
  lng : Option String
  radius : Option String
  measurement : Option String
  north : Option String
  south : Option String
  east : Option String
  west : Option String
  locationQuery : Option String
  checkIn : Option Day
  checkOut : Option Day
  guests : Option Nat

namespace SearchParams

def schema : Schema :=
  (["lat", "lng", "radius", "measurement", "north", "south", "east", "west",
    "location_query"].map (·, Kind.text)) ++
  [("check_in_date", .day), ("check_out_date", .day), ("number_of_guests", .whole Decimal.word32)]

def read (query : List Char) : Except ParamError SearchParams :=
  (Params.read schema query).map fun ps =>
    { lat := ps.text? "lat", lng := ps.text? "lng", radius := ps.text? "radius"
      measurement := ps.text? "measurement"
      north := ps.text? "north", south := ps.text? "south"
      east := ps.text? "east", west := ps.text? "west"
      locationQuery := ps.text? "location_query"
      checkIn := ps.day? "check_in_date", checkOut := ps.day? "check_out_date"
      guests := (ps.whole? "number_of_guests").map Int.toNat }

def number (s : Option String) : Option Float :=
  (s.bind fun s => Decimal.float? (Text.trim s.toList)).filter (·.isFinite)

/-- A unit; blanks around it and the case of its letters do not matter. -/
def unit? (s : String) : Option Geo.Measurement :=
  Geo.Measurement.ofName? (.ofList (Text.upperAscii (Text.trim s.toList)))

/-- A centre is given if either coordinate is. -/
def coordinates? (p : SearchParams) : Option Geo.Coordinates :=
  if p.lat.isSome || p.lng.isSome then
    some {
      lat := number p.lat, lng := number p.lng, radius := number p.radius
      measurement := p.measurement.bind unit? }
  else none

/-- An area is given if any side is. -/
def bounds? (p : SearchParams) : Option Geo.Bounds :=
  if p.north.isSome || p.south.isSome || p.east.isSome || p.west.isSome then
    some {
      north := number p.north, south := number p.south
      east := number p.east, west := number p.west }
  else none

def toQuery (p : SearchParams) : Query :=
  { location := ⟨p.coordinates?, p.bounds?, p.locationQuery⟩
    checkIn := p.checkIn, checkOut := p.checkOut, guests := p.guests }

end SearchParams

/-! ## Faults -/

/-- What can be wrong with well-formed parameters or a well-formed body. -/
inductive Fault where
  | longLocation
  | unknownUnit (text : String)
  | partySize
  | tooManyFeeds
  deriving DecidableEq, Repr

/-- The parameter and what is wrong with it. -/
def Fault.line : Fault → String
  | .longLocation => "location_query: Location query is too long"
  | .unknownUnit s =>
    "measurement: Validation error: invalid_measurement [\x7b\"value\": String(" ++
      .ofList (Text.quoted s.toList) ++ ")\x7d]"
  | .partySize => "number_of_guests: Number of guests must be between 1 and 100"
  | .tooManyFeeds => "ical_urls: At most 20 calendars per listing"

def Fault.message (faults : List Fault) : String :=
  "Validation error: " ++ String.intercalate "\n" (faults.map Fault.line)

def longestLocation : Nat := 200

def largestParty : Nat := 100

def mostFeeds : Nat := 20

def SearchParams.faults (p : SearchParams) : List Fault :=
  (if p.locationQuery.any (longestLocation < ·.length) then [.longLocation] else []) ++
  ((p.measurement.filter fun s => (unit? s).isNone).toList.map .unknownUnit) ++
  (if p.guests.any fun n => n < 1 || largestParty < n then [.partySize] else [])

end Lodging.Web
