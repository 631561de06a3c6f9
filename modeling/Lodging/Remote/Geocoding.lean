import Lodging.Decimal.Numeral
import Lodging.Geo.Resolve
import Lodging.Http.Exchange
import Lodging.Http.Status

/-!
# Geocoding over the web

A search service for places. It is asked for the best match of an address and answers with a list of
places, whose coordinates and sides are numbers written as text.
-/

namespace Lodging.Remote

open Http (Network Request)

structure GeocodingService where
  baseUrl : String
  userAgent : String
  /-- How long a request may take, in milliseconds. -/
  limit : Nat
  deriving DecidableEq, Repr

/-- The text for a client that cannot be set up. -/
def noClient : String := "Failed to create HTTP client: " ++ (Http.SendError.unbuildable none).message

/-- A client needs a user agent that can be sent. -/
def GeocodingService.check (g : GeocodingService) : Except Geo.GeocodeError Unit :=
  if Http.isHeaderValue g.userAgent then .ok () else .error (.request noClient)

structure FoundPlace where
  lat : String
  lon : String
  name : Option String
  /-- South, north, west and east. -/
  sides : Option (List String)

def FoundPlace.ofJson? (j : Json) : Option FoundPlace := do
  let f ← j.fields? ["lat", "lon", "display_name", "boundingbox"]
  return {
    lat := ← f.required "lat" Json.str?
    lon := ← f.required "lon" Json.str?
    name := ← f.optional "display_name" Json.str?
    sides := ← f.optional "boundingbox" (Json.list? Json.str?) }

/-- A coordinate has to be a finite number. -/
def degrees (raw : String) : Except Geo.GeocodeError Float :=
  match (Decimal.float? raw.toList).filter Float.isFinite with
  | some x => .ok x
  | none => .error (.response ("Invalid coordinate value: " ++ raw))

/-- The area of a place; anything but four sides is no area. -/
def FoundPlace.area (p : FoundPlace) : Except Geo.GeocodeError (Option Geo.Box) :=
  match p.sides with
  | some [south, north, west, east] => do
    let north ← degrees north
    let south ← degrees south
    let east ← degrees east
    let west ← degrees west
    return some { north, south, east, west }
  | _ => return none

def FoundPlace.place (p : FoundPlace) : Except Geo.GeocodeError Geo.Place := do
  let lat ← degrees p.lat
  let lng ← degrees p.lon
  return ⟨⟨lat, lng⟩, ← p.area, p.name⟩

def GeocodingService.url (g : GeocodingService) (address : String) : String :=
  .ofList (Text.dropTrailing '/' g.baseUrl.toList ++ "/search?q=".toList ++
    Http.Percent.component (Text.trim address.toList) ++ "&format=json&limit=1".toList)

def readPlaces (r : Http.Response) : Except Geo.GeocodeError (Option Geo.Place) :=
  if !Http.Status.isSuccess r.status then .error (.response ("HTTP " ++ Http.Status.text r.status))
  else
    match r.document? (Json.list? FoundPlace.ofJson?) with
    | none => .error (.response ("Failed to parse response: " ++ Http.undecodable))
    | some [] => .ok none
    | some (p :: _) => p.place.map some

def GeocodingService.lookup (g : GeocodingService) (net : Network) (address : String) :
    Except Geo.GeocodeError (Option Geo.Place) × List Request :=
  let (result, sent) := Http.send net g.userAgent (g.url address) id
  match result with
  | .error e => (.error (.request e.message), sent)
  | .ok r => (readPlaces r, sent)

end Lodging.Remote
