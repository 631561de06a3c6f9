import Lodging.Geo.Basic

/-!
# Ranges of latitude and longitude

A range lies between two latitudes and two longitudes. Longitudes run around the globe: a range whose
western end is the larger number contains the meridian opposite to Greenwich. The range around a point
reaches as far to each side as a distance covers there; a distance that goes all the way round gives
all longitudes.

Ranges are defined over any ordered type with the arithmetic they need.
-/

namespace Lodging.Geo

structure Range (α : Type) where
  latMin : α
  latMax : α
  lngMin : α
  lngMax : α
  deriving DecidableEq, Repr

section

variable {α : Type} [LE α] [LT α] [DecidableLE α] [DecidableLT α]

/-- Whether the point lies in the range, its ends included. -/
def Range.contains (r : Range α) (p : Point α) : Bool :=
  let lat := decide (r.latMin ≤ p.lat) && decide (p.lat ≤ r.latMax)
  let lng :=
    if r.lngMin ≤ r.lngMax then decide (r.lngMin ≤ p.lng) && decide (p.lng ≤ r.lngMax)
    else decide (r.lngMin ≤ p.lng) || decide (p.lng ≤ r.lngMax)
  lat && lng

variable [Add α] [Sub α] [Neg α] [OfNat α 180] [OfNat α 360]

/-- A longitude that is at most one turn off, brought back between -180 and 180. -/
def wrap (lng : α) : α :=
  if 180 < lng then lng - 360 else if lng < -180 then lng + 360 else lng

def Range.around (p : Point α) (dlat dlng : α) : Range α :=
  let (west, east) :=
    if 180 ≤ dlng then (-180, 180) else (wrap (p.lng - dlng), wrap (p.lng + dlng))
  { latMin := p.lat - dlat, latMax := p.lat + dlat, lngMin := west, lngMax := east }

end

def kilometresPerLat : Float := 110.574

/-- The length of a degree of longitude at the equator, in kilometres. -/
def kilometresPerLng : Float := 111.320

/-- The miles in a thousand kilometres. -/
def milesPerThousandKilometres : Float := 621.37

def radiusInKilometres (radius : Float) : Measurement → Float
  | .kilometres => radius
  | .miles => radius * 1000 / milesPerThousandKilometres

def radians (degrees : Float) : Float := degrees * (3.141592653589793 / 180)

/-- The range that holds everything within a radius of the point. Degrees of longitude shrink towards
the poles. -/
def Range.ofRadius (p : Point Float) (radius : Float) (m : Measurement) : Range Float :=
  let km := radiusInKilometres radius m
  .around p (km / kilometresPerLat) (km / (kilometresPerLng * (radians p.lat).cos.abs))

def Box.range (b : Box) : Range Float :=
  { latMin := b.south, latMax := b.north, lngMin := b.west, lngMax := b.east }

end Lodging.Geo
