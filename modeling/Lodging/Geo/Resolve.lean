import Lodging.Geo.Range
import Lodging.Text.Blank

/-!
# Resolving a location

A location becomes a filter on places. An area wins over a centre, a centre over a text; a text is
looked up by a geocoder, and matched with addresses if the geocoder knows no such place or fails.
Whether the geocoder is asked, and what, is decided before it is asked.
-/

namespace Lodging.Geo

inductive SpatialFilter where
  | everywhere
  | range (r : Range Float)
  | text (s : String)

/-- What a geocoder knows about an address. -/
structure Place where
  point : Point Float
  area : Option Box
  name : Option String

/-- How a geocoder fails: it cannot be asked, or its answer makes no sense. -/
inductive GeocodeError where
  | request (detail : String)
  | response (detail : String)
  deriving DecidableEq, Repr

def GeocodeError.message : GeocodeError → String
  | .request d => "Geocoding request failed: " ++ d
  | .response d => "Invalid geocoding response: " ++ d

/-- Looks an address up; `none` if there is no such place. -/
abbrev Geocoder := String → Except GeocodeError (Option Place)

/-- What a missing radius or unit stands for. -/
structure Defaults where
  radius : Float
  measurement : Measurement

def Defaults.standard : Defaults := ⟨25, .kilometres⟩

/-- A resolved location, with the point that results are ordered around. -/
structure Resolved where
  filter : SpatialFilter
  origin : Option (Point Float)

/-- A location that is settled at once, or one that hangs on an address. -/
inductive Lookup where
  | settled (r : Resolved)
  | ask (address : String)

def usableRadius? (radius : Option Float) : Option Float :=
  radius.filter fun r => r.isFinite && (0 : Float) ≤ r

/-- The text of the query without blanks at its ends, if anything is left. -/
def LocationQuery.address? (q : LocationQuery) : Option String :=
  (q.text.map Text.trimmed).filter (· ≠ "")

/-- Settles the location, or finds out what to ask. -/
def LocationQuery.lookup (d : Defaults) (q : LocationQuery) : Lookup :=
  match q.box?, q.coordinates, q.point? with
  | some b, _, p => .settled ⟨.range b.range, p⟩
  | none, some c, some p =>
    let radius := (usableRadius? c.radius).getD d.radius
    .settled ⟨.range (.ofRadius p radius (c.measurement.getD d.measurement)), some p⟩
  | none, _, _ =>
    match q.address? with
    | some a => .ask a
    | none => .settled ⟨.everywhere, none⟩

def Resolved.ofAnswer (d : Defaults) (address : String) :
    Except GeocodeError (Option Place) → Resolved
  | .ok (some place) =>
    let range := match place.area with
      | some b => b.range
      | none => .ofRadius place.point d.radius d.measurement
    ⟨.range range, some place.point⟩
  | _ => ⟨.text address, none⟩

/-- Resolves a location; also the addresses that the geocoder was asked for. -/
def LocationQuery.resolve (d : Defaults) (geocoder : Geocoder) (q : LocationQuery) :
    Resolved × List String :=
  match q.lookup d with
  | .settled r => (r, [])
  | .ask a => (.ofAnswer d a (geocoder a), [a])

end Lodging.Geo
