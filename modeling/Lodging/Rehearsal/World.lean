import Lodging.Rehearsal.Gate
import Lodging.Rehearsal.Script

/-!
# The world of a rehearsal

The stores, the services and the script, and those who act: the main actor goes through the steps of the
script, tasks go through one step each beside it, and the background loop is an actor of its own. Where
an actor carries the feeds of a batch on together, each feed is a strand of its own.

An actor acts until it has to wait. It is woken when an alarm rings, when one of its strands gets what it
asked for, or when a task that it waits for is over. In one turn it has attention for so many acts; when
that is used up, it keeps what it has and lets all others act first.
-/

namespace Lodging.Rehearsal

/-- How many acts an actor has attention for in one turn. -/
def span : Nat := 128

/-- Whenever an actor acts it looks after all feeds of a batch of at most so many; in a larger batch only
those act that were woken. -/
def crowd : Nat := 30

/-- The most turns of tasks, or of the loop, between two turns of the main actor. -/
def round : Nat := 61

inductive Actor where
  | main
  /-- A task, by its number. -/
  | task (n : Nat)
  | loop
  deriving DecidableEq, Repr

/-- An actor by itself, or a feed of the batch that it is at. -/
structure Strand where
  actor : Actor
  slot : Option Nat
  deriving DecidableEq, Repr

/-- What a strand has to get before it goes on. Each takes attention. -/
inductive Need where
  | time (t : Nat)
  /-- The table in which locks are found. -/
  | lockTable
  | lock
  /-- The calendar store: alone in order to change it, else together with others. -/
  | store (alone : Bool)
  deriving DecidableEq, Repr

/-- Where a strand of a call stands. -/
inductive Standing where
  | fresh
  /-- Needs something, and has asked for it or not. -/
  | needs (n : Need) (asked : Bool)
  | over
  deriving DecidableEq, Repr

/-- How an actor carries a call on. -/
structure Errand where
  request : Sync.Request
  /-- The call, once it was made. -/
  call : Option Nat
  own : Standing
  /-- The feeds of the batch at work. -/
  feeds : List Standing
  /-- Of a large batch the feeds that act next. -/
  woken : List Nat

/-- What an actor waits for before a step is over. -/
inductive Wait where
  | over (a : Answer)
  | until (time : Nat) (a : Answer)
  /-- Attention for so many acts, for a step that needs nothing else. -/
  | attention (acts : Nat) (s : Step)
  /-- The calendar store, for a step that asks it. -/
  | store (alone : Bool) (s : Step)
  | call (v : View)
  | task (n : Nat)
  | loopEnd
  | forever

/-- A wait, and whether it was made known to those who can end it. -/
structure Pause where
  wait : Wait
  asked : Bool

inductive Progress where
  | ready (s : Step)
  | paused (p : Pause)
  | over (a : Answer)

structure Transfer where
  call : Nat
  slot : Nat
  url : String
  due : Nat
  content : Sync.Download

/-- What the background loop does in its next turn, before all else. -/
structure LoopOrders where
  /-- Gives its pass up and ends. -/
  stop : Bool := false
  /-- Begins anew. -/
  start : Bool := false
  deriving DecidableEq, Repr

structure World where
  now : Nat := 0
  -- what the services work on
  inventory : Inventory
  down : Outage := []
  service : Sync.Service
  registry : Listing.Registry
  defaults : Geo.Defaults
  -- the script
  geocoder : Geo.Geocoder
  documents : List (String × Document)
  conducts : List (String × Conduct)
  -- what is under way
  transfers : List Transfer := []
  /-- Who made each call. -/
  callers : List Actor := []
  errands : List (Actor × Errand) := []
  tasks : List Progress := []
  /-- The tasks that can be asked for by name. -/
  handles : List (String × Nat) := []
  /-- Who waits for which task. -/
  joiners : List (Nat × Actor) := []
  orders : LoopOrders := {}
  /-- Who waits for the end of the loop. -/
  stoppers : List Actor := []
  -- what has to be shared
  lockTable : Gate Strand := .empty
  store : Gate Strand := .empty
  -- whose turn it is
  /-- The attention that the actor has left. -/
  attention : Nat := 0
  /-- Who is acting, and whether it was woken meanwhile. -/
  acting : Option Actor := none
  again : Bool := false
  /-- The tasks that act next, in order. -/
  queue : List Nat := []
  mainWoken : Bool := false
  loopWoken : Bool := false
  /-- Those whose attention was used up, last first. -/
  tired : List Strand := []
  /-- When to wake whom, in the order in which the alarms were set. -/
  alarms : List (Nat × Strand) := []
  -- what was noted down
  fetches : List FetchEntry := []
  geocoded : List String := []
  visits : List Listing.Visit := []

namespace World

def sync (w : World) : Sync.State := w.service.sync

def inHouse (w : World) : Listing.InHouse :=
  { inventory := w.inventory, calendars := w.sync.store, down := w.down
    defaults := w.defaults, geocoder := w.geocoder }

def partnerLookup (w : World) (name : String) (i : Listing.Inquiry) :
    Except Listing.Error Listing :=
  match w.conducts.lookup name with
  | some c => c.lookup name i
  | none => .error (.notFound i.id)

def partnerSearch (w : World) (name : String) :
    Timed.Eventual (Except Listing.Error (List Listing)) :=
  match w.conducts.lookup name with
  | some c => c.search name
  | none => .never

def services (w : World) : Web.Services :=
  { registry := w.registry, inHouse := w.inHouse, partner := w.partnerLookup }

def setStore (w : World) (store : Calendar.Store) : World :=
  { w with service := { w.service with sync := { w.sync with store } } }

/-! ## Errands -/

def errand? (w : World) (a : Actor) : Option Errand := w.errands.lookup a

def setErrand (w : World) (a : Actor) (e : Errand) : World :=
  { w with errands := (a, e) :: w.errands.filter (·.1 != a) }

def endErrand (w : World) (a : Actor) : World :=
  { w with errands := w.errands.filter (·.1 != a) }

def standing (w : World) (s : Strand) : Standing :=
  match w.errand? s.actor with
  | some e =>
    match s.slot with
    | none => e.own
    | some i => e.feeds.getD i .over
  | none => .over

def setStanding (w : World) (s : Strand) (st : Standing) : World :=
  match w.errand? s.actor with
  | some e =>
    match s.slot with
    | none => w.setErrand s.actor { e with own := st }
    | some i => w.setErrand s.actor { e with feeds := e.feeds.set i st }
  | none => w

/-! ## Waking -/

/-- Lets an actor act when its turn comes. A task that acts at the moment comes after the others. -/
def wakeActor (w : World) (a : Actor) : World :=
  match a with
  | .main => { w with mainWoken := true }
  | .loop => { w with loopWoken := true }
  | .task n =>
    if w.acting == some a then { w with again := true }
    else if w.queue.contains n then w
    else { w with queue := w.queue ++ [n] }

def wake (w : World) (s : Strand) : World :=
  match s.slot, w.errand? s.actor with
  | some i, some e =>
    if e.feeds.length ≤ crowd then w.wakeActor s.actor
    else if e.woken.contains i || e.feeds.getD i .over == .over then w
    else (w.setErrand s.actor { e with woken := e.woken ++ [i] }).wakeActor s.actor
  | _, _ => w.wakeActor s.actor

def setAlarm (w : World) (time : Nat) (s : Strand) : World :=
  { w with alarms := w.alarms ++ [(time, s)] }

/-- Moves the clock on to the next alarm and wakes those it is for. -/
def advance? (w : World) : Option World :=
  (w.alarms.map (·.1)).min?.map fun time =>
    let due := (w.alarms.filter (·.1 == time)).map (·.2)
    due.foldl wake { w with now := time, alarms := w.alarms.filter (·.1 != time) }

/-- Wakes those whose attention was used up, the last one first. -/
def rouse (w : World) : World := w.tired.foldl wake { w with tired := [] }

/-- Pays for an act. -/
def spend (w : World) (acts : Nat) : World := { w with attention := w.attention - acts }

/-- Lets all others act first. -/
def tire (w : World) (s : Strand) : World := { w with tired := s :: w.tired }

/-! ## What has to be shared -/

/-- Lets strands leave the table of locks and wakes those who get in. -/
def leaveLockTable (w : World) (p : Strand → Bool) : World :=
  (w.lockTable.admitted p).foldl wake { w with lockTable := w.lockTable.leave p }

/-- Lets strands leave the store and wakes those who get in. -/
def leaveStore (w : World) (p : Strand → Bool) : World :=
  (w.store.admitted p).foldl wake { w with store := w.store.leave p }

def strand? (w : World) (p : Sync.Party) : Option Strand :=
  (w.callers[p.call]?).map (⟨·, p.slot⟩)

/-- Replaces the service and wakes those who waited for a lock and got it. -/
def setService (w : World) (service : Sync.Service) : World :=
  let locks := w.sync.locks
  let waiting := (locks.live.map (·.owner)).filter (!locks.holds ·)
  let woken := service.sync.locks.holders.filter waiting.contains
  (woken.filterMap w.strand?).foldl wake { w with service }

/-- Lets an event of a call happen. -/
def event? (w : World) (e : Sync.Event) : Option World := (w.service.call? e).map w.setService

/-- Lets an event of a call happen, if it can. -/
def event (w : World) (e : Sync.Event) : World := (w.event? e).getD w

/-! ## Notes -/

def noteFetch (w : World) (isEnd : Bool) (url : String) : World :=
  { w with fetches := w.fetches ++ [⟨w.now, isEnd, url⟩] }

def noteVisits (w : World) (vs : List Listing.Visit) : World := { w with visits := w.visits ++ vs }

/-- The questions that each partner was asked. -/
def visitsByPartner (w : World) : List (String × List Listing.Visit) :=
  w.registry.names.map fun n => (n, w.visits.filter (·.owner == .partner n))

end World

end Lodging.Rehearsal
