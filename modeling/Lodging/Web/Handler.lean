import Lodging.Json.Reader
import Lodging.Listing.InHouse
import Lodging.Listing.Registry
import Lodging.Web.Response
import Lodging.Web.Route

/-!
# Answering requests

What a request comes down to: a response that is known at once, a search, or a call on calendars. What
is wrong with the parameters or the body is found first, then what is wrong with the listing.
-/

namespace Lodging.Web

open Listing (Inquiry Registry Visit)

/-- What requests are answered from. -/
structure Services where
  registry : Registry
  inHouse : Listing.InHouse
  /-- How the partners answer questions for a single listing. -/
  partner : String → Inquiry → Except Listing.Error Listing

inductive Action where
  | respond (r : Response)
  | search (q : Query)
  /-- Gives the listing new feeds. -/
  | setFeeds (listing : Int) (urls : List String)
  | refresh (listing : Option Int)

def longestBody : Nat := 2097152

def readUrls (r : Request) : Except Error (List String) :=
  if !r.hasJson then .error .contentType
  else if longestBody < r.body.utf8ByteSize then .error (.oversized longestBody)
  else
    match (Json.read? r.body).bind urls? with
    | none => .error .body
    | some urls => if mostFeeds < urls.length then .error (.faults [.tooManyFeeds]) else .ok urls
where
  urls? (j : Json) : Option (List String) := do
    (← j.fields? ["ical_urls"]).required "ical_urls" (Json.list? Json.str?)

/-- A search whose parameters are in order. -/
def readSearch (r : Request) : Except Error Query := do
  let p ← (SearchParams.read r.query).mapError .query
  if p.faults.isEmpty then return p.toQuery else throw (.faults p.faults)

/-- Whether the reservations of a listing are asked for. -/
def readLookup (r : Request) : Except Error Bool :=
  ((Params.read [("include_reservations", .flag)] r.query).map fun ps =>
    (ps.flag? "include_reservations").getD false).mapError .query

/-- The listing whose calendars are read again, if not all of them. -/
def readRefresh (r : Request) : Except Error (Option Int) :=
  ((Params.read [("listing_id", .whole Decimal.int64)] r.query).map
    (·.whole? "listing_id")).mapError .query

namespace Services

def lookup (s : Services) (demand : Listing.Demand) (id : String) (reservations : Bool) :
    Except Listing.Error Listing × List Visit :=
  s.registry.lookup s.inHouse.lookup s.partner demand (s.registry.parse id) reservations

/-- The number of the in-house listing that an identifier refers to. -/
def inHouseListing (s : Services) (id : String) : Except Error Int × List Visit :=
  match (s.registry.parse id).owner with
  | .partner _ => (.error (.notInHouse id), [])
  | .inHouse =>
    let (result, visits) := s.lookup .any id false
    (match result with
    | .error e => .error (.listing e)
    | .ok l =>
      match Decimal.read? Decimal.int64 l.id.toList with
      | some n => .ok n
      | none => .error (.badListing id), visits)

def showListing (s : Services) (demand : Listing.Demand) (id : String) (r : Request) :
    Response × List Visit :=
  match readLookup r with
  | .error e => (.ofError e, [])
  | .ok reservations =>
    let (result, visits) := s.lookup demand id reservations
    (.ofListing result, visits)

def showFeeds (s : Services) (id : String) : Response × List Visit :=
  let (listing, visits) := s.inHouseListing id
  (match listing with
  | .error e => .ofError e
  | .ok n =>
    match Calendar.ask s.inHouse.down .findFeeds (s.inHouse.calendars.findFeeds (some n)) with
    | .error e => .ofError (.calendar e)
    | .ok fs => .ofFeeds n fs, visits)

def setFeeds (s : Services) (id : String) (r : Request) : Action × List Visit :=
  match readUrls r with
  | .error e => (.respond (.ofError e), [])
  | .ok urls =>
    let (listing, visits) := s.inHouseListing id
    (match listing with
    | .error e => .respond (.ofError e)
    | .ok n => .setFeeds n urls, visits)

/-- What a request comes down to; also which provider was asked for a single listing. -/
def handle (s : Services) (r : Request) : Action × List Visit :=
  match Route.ofRequest? r with
  | none => (.respond .noRoute, [])
  | some .health => (.respond .health, [])
  | some .search =>
    match readSearch r with
    | .error e => (.respond (.ofError e), [])
    | .ok q => (.search q, [])
  | some (.listing raw) => respond (s.showListing .any raw r)
  | some (.activeListing raw) => respond (s.showListing .active raw r)
  | some (.calendars raw) => respond (s.showFeeds raw)
  | some (.setCalendars raw) => s.setFeeds raw r
  | some .refresh =>
    match readRefresh r with
    | .error e => (.respond (.ofError e), [])
    | .ok listing => (.refresh listing, [])
where
  respond : Response × List Visit → Action × List Visit
    | (response, visits) => (.respond response, visits)

end Services

end Lodging.Web
