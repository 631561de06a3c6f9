import Lodging.Calendar.Access
import Lodging.Geo.Distance
import Lodging.Listing.Filter
import Lodging.Listing.Inventory
import Lodging.Listing.Query

/-!
# The in-house provider

Searches and lookups in the inventory, with the calendar store telling which nights are taken. A search
selects records by the criteria of the query, orders them around the point searched for, and leaves out
those with a busy night in the stay.
-/

namespace Lodging.Listing

/-- The name under which in-house listings are handed out. -/
def inHouseName : String := "beenest"

structure InHouse where
  inventory : Inventory
  calendars : Calendar.Store
  down : Outage
  defaults : Geo.Defaults
  geocoder : Geo.Geocoder

namespace InHouse

/-- A failure of the calendar store, as a listing error. -/
def ofCalendar {α : Type} (r : Except Calendar.Error α) : Except Error α :=
  r.mapError fun e => .internal e.message

def ask {α : Type} (down : Outage) (a : Access) (answer : α) : Except Error α :=
  if down.contains a then .error (.internal a.failure) else .ok answer

/-- The distance of a record from the point searched for, if its coordinates are known. -/
def distanceFrom (origin : Geo.Point Float) (r : Record) : Option Float :=
  r.about.point?.map (Geo.distance origin)

/-- Nearest first; records that are equally near, or have no coordinates, keep their order. -/
def sortFrom (origin : Option (Geo.Point Float)) (rs : List Record) : List Record :=
  match origin with
  | some p => rs.mergeSort fun a b => Geo.nearerOrSame (distanceFrom p a) (distanceFrom p b)
  | none => rs

/-- The criteria that a record can be judged by alone. A party is at most as large as the largest
capacity that can be recorded. -/
def filterOf (q : Query) (area : Geo.SpatialFilter) : Filter :=
  { spatial := area, minGuests := min (q.partySize : Int) Decimal.int32.high, nights := q.nights? }

/-- The records that are free in the window. -/
def freeIn (h : InHouse) (window : Option Period) (rs : List Record) :
    Except Error (List Record) :=
  match window with
  | none => .ok rs
  | some w => do
    let busy ← ofCalendar <|
      Calendar.ask h.down .findOverlapping (h.calendars.findOverlapping (rs.map (·.id)) w)
    return rs.filter fun r => !(busy.any (·.listing == r.id))

/-- The search, given the resolved location. -/
def searchResolved (h : InHouse) (q : Query) (place : Geo.Resolved) :
    Except Error (List Listing) := do
  let rs ← ask h.down .findListings (h.inventory.select (filterOf q place.filter).matches)
  let rs ← h.freeIn q.window? (sortFrom place.origin rs)
  return rs.map (·.toListing inHouseName)

/-- The search; also the addresses that the geocoder was asked for. -/
def search (h : InHouse) (q : Query) : Except Error (List Listing) × List String :=
  let (resolved, asked) := q.location.resolve h.defaults h.geocoder
  (h.searchResolved q resolved, asked)

/-- In-house identifiers are positive numbers. -/
def numericId (id : String) : Except Error Int :=
  match Decimal.read? Decimal.int64 (Text.trim id.toList) with
  | some n => if 0 < n then .ok n else .error (.invalidInput (malformed id))
  | none => .error (.invalidInput (malformed id))
where
  malformed (id : String) : String := "Listing id must be a positive integer: " ++ id

def load (h : InHouse) (id : String) : Except Error Record := do
  let n ← numericId id
  match ← ask h.down .findById (h.inventory.get? n) with
  | some r => return r
  | none => throw (.notFound id)

def withReservations (h : InHouse) (r : Record) : Except Error Listing := do
  let blocks ← ofCalendar <| Calendar.ask h.down .findBlocks (h.calendars.findBlocks r.id)
  return { r.toListing inHouseName with reservations := blocks.map (·.period) }

def lookup (h : InHouse) (i : Inquiry) : Except Error Listing := do
  let r ← h.load i.id
  let l ← handOut i.demand i.id (r.toListing inHouseName)
  if i.reservations then h.withReservations r else return l

end InHouse

end Lodging.Listing
