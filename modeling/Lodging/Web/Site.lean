import Lodging.Sync.Step
import Lodging.Web.Handler

/-!
# Requests in flight

A site answers any number of requests side by side, from one inventory and one calendar store. What a
request comes down to is found out when it arrives: a response, a search, or a call on calendars. A
search is answered when the last provider has come back or run out of time. A call is made some time
later and goes on in its own steps, between those of other calls and of the passes of the background
loop; the request is answered with its outcome.
-/

namespace Lodging.Web

open Timed (Eventual)

/-- What a request meets beside the stores when it arrives. -/
structure Surroundings where
  down : Outage
  geocoder : Geo.Geocoder
  /-- How the partners answer questions for a single listing. -/
  partner : String → Listing.Inquiry → Except Listing.Error Listing
  /-- How the partners answer searches. -/
  partnerSearch : String → Eventual (Except Listing.Error (List Listing))

/-- How far a request has come. -/
inductive Progress where
  | searching (result : Eventual (Except Listing.Error (List Listing)))
  /-- Comes down to a call that was not made yet; the response will name the listing. -/
  | decided (call : Sync.Request) (listing : Int)
  /-- Waits for its call. -/
  | calling (call : Nat) (listing : Int)
  | answered (r : Response)

structure Exchange where
  request : Request
  progress : Progress

structure Site where
  registry : Listing.Registry
  defaults : Geo.Defaults
  /-- How many feeds make a batch. -/
  batchSize : Nat
  inventory : Inventory
  sync : Sync.State
  /-- All requests that ever arrived, in their order. -/
  exchanges : List Exchange

namespace Site

inductive Event where
  | receive (r : Request) (around : Surroundings)
  /-- Makes the call that a request comes down to. -/
  | call (n : Nat)
  /-- A call goes on. -/
  | carry (e : Sync.Event)
  /-- Answers a request that had to wait. -/
  | answer (n : Nat)
  /-- The background loop begins a pass. -/
  | tick
  /-- Adds a record to the inventory. -/
  | insert (r : Record)

def create (registry : Listing.Registry) (defaults : Geo.Defaults) (batchSize : Nat)
    (inventory : Inventory) : Site :=
  { registry, defaults, batchSize, inventory, sync := .empty, exchanges := [] }

def services (w : Site) (around : Surroundings) : Services where
  registry := w.registry
  inHouse :=
    { inventory := w.inventory, calendars := w.sync.store, down := around.down
      defaults := w.defaults, geocoder := around.geocoder }
  partner := around.partner

/-- How far a request has come once it has arrived. -/
def progressOf (w : Site) (around : Surroundings) (r : Request) : Progress :=
  match ((w.services around).handle r).1 with
  | .respond response => .answered response
  | .search q =>
    let own := ((w.services around).inHouse.search q).1
    .searching (w.registry.search (.after 0 own) around.partnerSearch)
  | .setFeeds n urls => .decided (.setFeeds n urls) n
  | .refresh listing => .decided (.refresh listing) 0

def receive (w : Site) (r : Request) (around : Surroundings) : Site :=
  { w with exchanges := w.exchanges ++ [⟨r, w.progressOf around r⟩] }

def setProgress (w : Site) (n : Nat) (p : Progress) : Site :=
  { w with exchanges := w.exchanges.modify n fun x => { x with progress := p } }

def call? (w : Site) (n : Nat) : Option Site :=
  match w.exchanges[n]? with
  | some ⟨_, .decided call listing⟩ =>
    some { w.setProgress n (.calling w.sync.calls.length listing) with sync := w.sync.submit call }
  | _ => none

/-- Calls are made by requests and by the background loop only. -/
def carry? (w : Site) : Sync.Event → Option Site
  | .submit _ => none
  | e => (w.sync.step? w.batchSize e).map fun sync => { w with sync }

/-- The response to a request that had to wait, once it is known. -/
def response? (w : Site) : Progress → Option Response
  | .searching (.after _ result) => some (.ofListings result)
  | .calling c listing => (w.sync.calls[c]?.bind (·.outcome?)).map (.ofOutcome listing)
  | _ => none

def answer? (w : Site) (n : Nat) : Option Site :=
  match w.exchanges[n]? with
  | some x => (w.response? x.progress).map fun r => w.setProgress n (.answered r)
  | none => none

def tick (w : Site) : Site := { w with sync := w.sync.submit (.refresh none) }

def insert (w : Site) (r : Record) : Site := { w with inventory := w.inventory.insert r }

def step? (w : Site) : Event → Option Site
  | .receive r around => some (w.receive r around)
  | .call n => w.call? n
  | .carry e => w.carry? e
  | .answer n => w.answer? n
  | .tick => some w.tick
  | .insert r => some (w.insert r)

def run? (w : Site) : List Event → Option Site
  | [] => some w
  | e :: es => (w.step? e).bind (·.run? es)

end Site

end Lodging.Web
