import Lodging.Web.Request

/-!
# Routes

Which request asks for what. A path and its method have to be exactly those of a route; a listing is
named by one segment of the path that is not empty.
-/

namespace Lodging.Web

inductive Route where
  | health
  | search
  | listing (id : String)
  | activeListing (id : String)
  | calendars (id : String)
  | setCalendars (id : String)
  | refresh
  deriving DecidableEq, Repr

namespace Route

def ofSegments? (method : String) (segments : List (List Char)) : Option Route :=
  match method, segments.map String.ofList, segments with
  | "GET", ["health"], _ => some .health
  | "GET", ["api", "listings", "search"], _ => some .search
  | "GET", ["api", "listings", _], [_, _, id] => named .listing id
  | "GET", ["api", "listings", _, "active"], [_, _, id, _] => named .activeListing id
  | "GET", ["api", "listings", _, "calendars"], [_, _, id, _] => named .calendars id
  | "PUT", ["api", "listings", _, "calendars"], [_, _, id, _] => named .setCalendars id
  | "POST", ["api", "calendars", "refresh"], _ => some .refresh
  | _, _, _ => none
where
  named (route : String → Route) (id : List Char) : Option Route :=
    if id.isEmpty then none else some (route (Request.decodeSegment id))

def ofRequest? (r : Request) : Option Route := r.segments?.bind (ofSegments? r.method)

end Route

end Lodging.Web
