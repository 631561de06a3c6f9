import Lodging.Geo.Resolve
import Lodging.Listing.Basic
import Lodging.Text.Infix
import Lodging.Text.Lower

/-!
# Filtering records

The criteria of a search that a record can be judged by alone.
-/

namespace Lodging.Listing

structure Filter where
  spatial : Geo.SpatialFilter
  minGuests : Int
  /-- The nights of the stay, if they are known. -/
  nights : Option Int

/-- Whether an address contains a text, in letters of any case. -/
def addressMatches (text address : String) : Bool :=
  Text.occursIn (Text.lower text.toList) (Text.lower address.toList)

/-- Whether a record lies where the search looks. A record without the data that it takes lies
nowhere. -/
def inArea (area : Geo.SpatialFilter) (d : Description) : Bool :=
  match area with
  | .everywhere => true
  | .range r => d.point?.any r.contains
  | .text s => d.address.any (addressMatches s)

def Filter.matches (f : Filter) (r : Record) : Bool :=
  r.about.isActive && decide (f.minGuests ≤ r.about.maxGuests) &&
    f.nights.all (fun n => decide (r.about.minimumNights ≤ n)) && inArea f.spatial r.about

end Lodging.Listing
