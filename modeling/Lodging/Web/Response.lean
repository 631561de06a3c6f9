import Lodging.Calendar.Error
import Lodging.Calendar.Store
import Lodging.Json.Printer
import Lodging.Listing.Basic
import Lodging.Sync.Call
import Lodging.Web.SearchParams

/-!
# Responses

What is sent back. An error is a document with the kind of error and a message; errors of the inside
do not say what went wrong.
-/

namespace Lodging.Web

structure Response where
  status : Nat
  body : String
  deriving DecidableEq, Repr

inductive Error where
  /-- The query does not fit the parameters of the route. -/
  | query (e : ParamError)
  | contentType
  /-- The body is longer than this many bytes. -/
  | oversized (limit : Nat)
  /-- The body is not the expected document. -/
  | body
  | faults (fs : List Fault)
  /-- Calendars of a partner are not managed here. -/
  | notInHouse (id : String)
  | badListing (id : String)
  | listing (e : Listing.Error)
  | calendar (e : Calendar.Error)
  deriving DecidableEq, Repr

namespace Error

def internalMessage : String := "An internal error occurred"

def parts : Error → Nat × String × String
  | query e => invalid ("Query deserialize error: " ++ e.message)
  | contentType => invalid "Content type error"
  | oversized limit =>
    invalid ("JSON payload has exceeded limit (" ++ .ofList (Decimal.digits limit) ++ " bytes).")
  | body => invalid "Json deserialize error"
  | faults fs => invalid (Fault.message fs)
  | notInHouse id => invalid ("Calendars can only be managed for in-house listings: " ++ id)
  | badListing id => invalid ("Invalid listing id: " ++ id)
  | calendar (.badUrl url) => invalid (Calendar.Error.badUrl url).detail
  | listing (.invalidInput d) => (400, "invalid_input", d)
  | listing (.notFound id) => (404, "listing_not_found", "Listing " ++ id ++ " not found")
  | listing (.inactive id) => (410, "listing_inactive", "Listing " ++ id ++ " is no longer active")
  | listing (.internal _) => (500, "internal_error", internalMessage)
  | calendar _ => (500, "internal_error", internalMessage)
where
  invalid (message : String) : Nat × String × String := (400, "validation_error", message)

end Error

namespace Response

def ok (j : Json) : Response := ⟨200, j.render⟩

def noRoute : Response := ⟨404, ""⟩

def health : Response := ⟨200, "OK"⟩

def ofError (e : Error) : Response :=
  let (status, kind, message) := e.parts
  ⟨status, (Json.obj [("error", .str kind), ("message", .str message)]).render⟩

/-- The response to a result that may be an error. -/
def ofResult {α : Type} (write : α → Json) : Except Error α → Response
  | .ok a => ok (write a)
  | .error e => ofError e

def ofListings (r : Except Listing.Error (List Listing)) : Response :=
  ofResult (fun ls => .obj [("listings", .ofList Listing.toJson ls), ("total", .ofNat ls.length)])
    (r.mapError .listing)

def ofListing (r : Except Listing.Error Listing) : Response :=
  ofResult Listing.toJson (r.mapError .listing)

def ofFeeds (listing : Int) (fs : List Calendar.Feed) : Response :=
  ok (.obj [("listing_id", .whole listing), ("feeds", .ofList Calendar.Feed.toJson fs)])

/-- The response to a call on the calendars of a listing, or of all listings. -/
def ofOutcome (listing : Int) : Sync.Outcome → Response
  | .feeds fs => ofFeeds listing fs
  | .blocks bs => ok (Sync.Summary.ofBlocks bs).toJson
  | .failed e => ofError (.calendar e)

end Response

end Lodging.Web
