import Lodging.Decimal.Layout
import Lodging.Http.Exchange
import Lodging.Http.Form
import Lodging.Http.Status
import Lodging.Listing.Basic
import Lodging.Listing.Query
import Lodging.Listing.Reference
import Lodging.Text.Blank

/-!
# Partners over the web

A partner offers its listings at `/listings` below its base URL, and each single one below that at its
own identifier. A search is passed on as parameters, of which those that say nothing are left out. What
comes back is handed out under the name of the partner.
-/

namespace Lodging.Remote

open Http (Network Request)

structure PartnerApi where
  name : String
  baseUrl : String
  deriving DecidableEq, Repr

def partnerUserAgent : String := "BeenestListingSearch/1.0"

/-- A listing as a partner serves it. -/
structure Offer where
  id : String
  about : Description

/-- An offer need not tell a minimum stay, nor that it is active. -/
def Offer.ofJson? (j : Json) : Option Offer := do
  let f ← j.fields? ["id", "title", "description", "address", "lat", "lng", "max_guests",
    "minimum_nights", "price_per_night", "currency", "active"]
  return {
    id := ← f.required "id" Json.str?
    about := {
      title := ← f.required "title" Json.str?
      description := ← f.orElse "description" none (Json.nullable Json.str?)
      address := ← f.orElse "address" none (Json.nullable Json.str?)
      lat := ← f.orElse "lat" none (Json.nullable Json.float?)
      lng := ← f.orElse "lng" none (Json.nullable Json.float?)
      maxGuests := ← f.required "max_guests" (Json.whole? Decimal.int32)
      minimumNights := ← f.orElse "minimum_nights" 1 (Json.whole? Decimal.int32)
      pricePerNight := ← f.orElse "price_per_night" none (Json.nullable Json.float?)
      currency := ← f.orElse "currency" none (Json.nullable Json.str?)
      isActive := ← f.orElse "active" true Json.bool? } }

def Offer.listOfJson? (j : Json) : Option (List Offer) := do
  let f ← j.fields? ["listings"]
  f.required "listings" (Json.list? Offer.ofJson?)

namespace PartnerApi

def listing (p : PartnerApi) (o : Offer) : Listing :=
  { id := (Listing.Reference.mk (.partner p.name) o.id).text, provider := p.name, about := o.about
    reservations := [] }

/-! ## Parameters of a search -/

def floatParam (name : String) (x : Float) : String × String := (name, .ofList (Decimal.plain x))

/-- The parameters for a centre. A radius says something only if it is positive. -/
def centreParams (c : Geo.Coordinates) : List (String × String) :=
  match c.point? with
  | none => []
  | some p =>
    [floatParam "lat" p.lat, floatParam "lng" p.lng] ++
      ((c.radius.filter fun r => r.isFinite && (0 : Float) < r).map (floatParam "radius")).toList ++
      (c.measurement.map fun m => ("measurement", m.name)).toList

def areaParams (b : Geo.Box) : List (String × String) :=
  [floatParam "north" b.north, floatParam "south" b.south, floatParam "east" b.east,
    floatParam "west" b.west]

def searchParams (q : Query) : List (String × String) :=
  [("guests", .ofList (Decimal.digits q.partySize))] ++
    (q.location.coordinates.map centreParams).getD [] ++
    (q.location.box?.map areaParams).getD [] ++
    ((q.location.text.map Text.trimmed).filter (· ≠ "")).toList.map (("location", ·)) ++
    q.checkIn.toList.map (("check_in", ·.text)) ++ q.checkOut.toList.map (("check_out", ·.text))

/-! ## Requests -/

def listingsUrl (p : PartnerApi) : List Char :=
  Text.dropTrailing '/' p.baseUrl.toList ++ "/listings".toList

def listingUrl (p : PartnerApi) (id : String) : List Char :=
  p.listingsUrl ++ '/' :: Http.Percent.component id.toList

def ofSend {α : Type} (r : Except Http.SendError α) : Except Listing.Error α :=
  r.mapError fun e => .internal ("HTTP request failed: " ++ e.message)

def unreadable : Listing.Error := .internal ("Failed to parse response: " ++ Http.undecodable)

/-- Reads the answer to a search; only active offers are handed out. -/
def readOffers (p : PartnerApi) (r : Http.Response) : Except Listing.Error (List Listing) :=
  if !Http.Status.isSuccess r.status then
    .error (.internal (p.name ++ " search returned HTTP " ++ Http.Status.text r.status))
  else
    match r.document? Offer.listOfJson? with
    | none => .error unreadable
    | some offers => .ok ((offers.filter (·.about.isActive)).map p.listing)

def search (p : PartnerApi) (net : Network) (q : Query) :
    Except Listing.Error (List Listing) × List Request :=
  let (result, sent) := Http.send net partnerUserAgent (.ofList p.listingsUrl)
    (·.withQuery (searchParams q) Http.Form.write)
  (ofSend result >>= p.readOffers, sent)

def readOffer (p : PartnerApi) (id : String) (r : Http.Response) : Except Listing.Error Offer :=
  if r.status = 404 then .error (.notFound id)
  else if !Http.Status.isSuccess r.status then
    .error (.internal (p.name ++ " returned HTTP " ++ Http.Status.text r.status))
  else
    match r.document? Offer.ofJson? with
    | none => .error unreadable
    | some o => .ok o

def lookup (p : PartnerApi) (net : Network) (i : Listing.Inquiry) :
    Except Listing.Error Listing × List Request :=
  let (result, sent) := Http.send net partnerUserAgent (.ofList (p.listingUrl i.id)) id
  (ofSend result >>= p.readOffer i.id >>= fun o => Listing.handOut i.demand i.id (p.listing o), sent)

end PartnerApi

end Lodging.Remote
