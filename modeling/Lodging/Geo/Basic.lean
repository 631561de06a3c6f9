import Lodging.Json.Fields

/-!
# Places on the globe

Points and boxes in degrees, and the location part of a search as a caller gives it. Any part of it
may be missing, and a coordinate counts only if it is finite.
-/

namespace Lodging.Geo

/-- A point; over floats in a search, over any ordered field in the theory. -/
structure Point (α : Type) where
  lat : α
  lng : α
  deriving DecidableEq, Repr

inductive Measurement where
  | kilometres
  | miles
  deriving DecidableEq, Repr

structure Box where
  north : Float
  south : Float
  east : Float
  west : Float

structure Coordinates where
  lat : Option Float
  lng : Option Float
  radius : Option Float
  measurement : Option Measurement

/-- Sides of an area that may be missing. -/
structure Bounds where
  north : Option Float
  south : Option Float
  east : Option Float
  west : Option Float

structure LocationQuery where
  coordinates : Option Coordinates
  bounds : Option Bounds
  text : Option String

def finite? (x : Option Float) : Option Float := x.filter Float.isFinite

/-- The centre, if both of its coordinates are usable. -/
def Coordinates.point? (c : Coordinates) : Option (Point Float) := do
  return ⟨← finite? c.lat, ← finite? c.lng⟩

/-- The area, if all of its sides are usable. -/
def Bounds.box? (b : Bounds) : Option Box := do
  return ⟨← finite? b.north, ← finite? b.south, ← finite? b.east, ← finite? b.west⟩

def LocationQuery.point? (q : LocationQuery) : Option (Point Float) :=
  q.coordinates.bind Coordinates.point?

def LocationQuery.box? (q : LocationQuery) : Option Box := q.bounds.bind Bounds.box?

/-! ## In documents -/

def Measurement.name : Measurement → String
  | .kilometres => "KM"
  | .miles => "MI"

def Measurement.ofName? (s : String) : Option Measurement :=
  if s = "KM" then some .kilometres else if s = "MI" then some .miles else none

theorem Measurement.ofName?_name (m : Measurement) : ofName? m.name = some m := by
  cases m <;> rfl

/-- A unit is written as its name; an object whose only member has the name and null is read, too. -/
def Measurement.ofJson? : Json → Option Measurement
  | .str s => ofName? s
  | .obj [(s, .null)] => ofName? s
  | _ => none

def Measurement.toJson (m : Measurement) : Json := .str m.name

def Coordinates.toJson (c : Coordinates) : Json :=
  .obj [("lat", .ofOption .ofFloat c.lat), ("lng", .ofOption .ofFloat c.lng),
    ("radius", .ofOption .ofFloat c.radius), ("measurement", .ofOption Measurement.toJson c.measurement)]

def Coordinates.ofJson? (j : Json) : Option Coordinates := do
  let f ← j.fields? ["lat", "lng", "radius", "measurement"]
  return {
    lat := ← f.optional "lat" Json.float?
    lng := ← f.optional "lng" Json.float?
    radius := ← f.optional "radius" Json.float?
    measurement := ← f.optional "measurement" Measurement.ofJson? }

def Bounds.toJson (b : Bounds) : Json :=
  .obj [("north", .ofOption .ofFloat b.north), ("south", .ofOption .ofFloat b.south),
    ("east", .ofOption .ofFloat b.east), ("west", .ofOption .ofFloat b.west)]

def Bounds.ofJson? (j : Json) : Option Bounds := do
  let f ← j.fields? ["north", "south", "east", "west"]
  return {
    north := ← f.optional "north" Json.float?
    south := ← f.optional "south" Json.float?
    east := ← f.optional "east" Json.float?
    west := ← f.optional "west" Json.float? }

def LocationQuery.toJson (q : LocationQuery) : Json :=
  .obj [("coordinates", .ofOption Coordinates.toJson q.coordinates),
    ("bounds", .ofOption Bounds.toJson q.bounds),
    ("location_query", .ofOption .str q.text)]

def LocationQuery.ofJson? (j : Json) : Option LocationQuery := do
  let f ← j.fields? ["coordinates", "bounds", "location_query"]
  return {
    coordinates := ← f.optional "coordinates" Coordinates.ofJson?
    bounds := ← f.optional "bounds" Bounds.ofJson?
    text := ← f.optional "location_query" Json.str? }

end Lodging.Geo
