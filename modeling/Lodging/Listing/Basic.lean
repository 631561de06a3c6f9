import Lodging.Day.Period
import Lodging.Geo.Basic

/-!
# Listings

A listing as callers see it, whichever provider it comes from, and a record as the in-house inventory
keeps it.
-/

namespace Lodging

/-- What in-house records and listings of any provider have in common. -/
structure Description where
  title : String
  description : Option String
  address : Option String
  lat : Option Float
  lng : Option Float
  maxGuests : Int
  minimumNights : Int
  pricePerNight : Option Float
  currency : Option String
  isActive : Bool

structure Listing where
  /-- For a listing of a partner it begins with the name of the partner. -/
  id : String
  provider : String
  about : Description
  /-- Busy periods, if they were asked for. -/
  reservations : List Period

/-- A listing of the in-house inventory. -/
structure Record where
  id : Int
  about : Description

namespace Listing

inductive Error where
  | invalidInput (detail : String)
  | notFound (id : String)
  | inactive (id : String)
  | internal (detail : String)
  deriving DecidableEq, Repr

def Error.message : Error → String
  | .invalidInput d => "Invalid input: " ++ d
  | .notFound id => "Listing not found: " ++ id
  | .inactive id => "Listing is inactive: " ++ id
  | .internal d => "Internal error: " ++ d

/-- Which listings a caller wants to see when it asks for one. -/
inductive Demand where
  | active
  | any
  deriving DecidableEq, Repr

structure Inquiry where
  demand : Demand
  id : String
  /-- Whether to attach the busy periods. -/
  reservations : Bool
  deriving DecidableEq, Repr

/-- Hands a listing out, unless it is inactive and only active ones are wanted. -/
def handOut (demand : Demand) (id : String) (l : Listing) : Except Error Listing :=
  if demand = .active ∧ !l.about.isActive then .error (.inactive id) else .ok l

theorem eq_of_handOut {demand : Demand} {id : String} {l l' : Listing}
    (h : handOut demand id l = .ok l') : l' = l := by
  unfold handOut at h
  split at h
  · cases h
  · exact (Except.ok.inj h).symm

end Listing

namespace Description

def point? (d : Description) : Option (Geo.Point Float) := do return ⟨← d.lat, ← d.lng⟩

/-- The members of an object between the identification and the reservations. -/
def members (d : Description) : List (String × Json) :=
  [("title", .str d.title), ("description", .ofOption .str d.description),
    ("address", .ofOption .str d.address), ("lat", .ofOption .ofFloat d.lat),
    ("lng", .ofOption .ofFloat d.lng), ("max_guests", .whole d.maxGuests),
    ("minimum_nights", .whole d.minimumNights),
    ("price_per_night", .ofOption .ofFloat d.pricePerNight),
    ("currency", .ofOption .str d.currency), ("is_active", .bool d.isActive)]

def names : List String :=
  ["title", "description", "address", "lat", "lng", "max_guests", "minimum_nights",
    "price_per_night", "currency", "is_active"]

def ofFields? (f : Json.Fields) : Option Description := do
  return {
    title := ← f.required "title" Json.str?
    description := ← f.optional "description" Json.str?
    address := ← f.optional "address" Json.str?
    lat := ← f.optional "lat" Json.float?
    lng := ← f.optional "lng" Json.float?
    maxGuests := ← f.required "max_guests" (Json.whole? Decimal.int32)
    minimumNights := ← f.required "minimum_nights" (Json.whole? Decimal.int32)
    pricePerNight := ← f.optional "price_per_night" Json.float?
    currency := ← f.optional "currency" Json.str?
    isActive := ← f.required "is_active" Json.bool? }

end Description

/-! ## In documents -/

/-- Reservations are only written if there are any. -/
def Listing.toJson (l : Listing) : Json :=
  .obj ([("id", .str l.id), ("provider", .str l.provider)] ++ l.about.members ++
    if l.reservations.isEmpty then []
    else [("reservations", .ofList Period.toJson l.reservations)])

def Listing.ofJson? (j : Json) : Option Listing := do
  let f ← j.fields? (["id", "provider"] ++ Description.names ++ ["reservations"])
  return {
    id := ← f.required "id" Json.str?
    provider := ← f.required "provider" Json.str?
    about := ← Description.ofFields? f
    reservations := ← f.orElse "reservations" [] (Json.list? Period.ofJson?) }

def Record.toJson (r : Record) : Json := .obj (("id", .whole r.id) :: r.about.members)

def Record.ofJson? (j : Json) : Option Record := do
  let f ← j.fields? ("id" :: Description.names)
  return {
    id := ← f.required "id" (Json.whole? Decimal.int64)
    about := ← Description.ofFields? f }

def Record.toListing (r : Record) (provider : String) : Listing :=
  { id := .ofList (Decimal.signed r.id), provider, about := r.about, reservations := [] }

end Lodging
