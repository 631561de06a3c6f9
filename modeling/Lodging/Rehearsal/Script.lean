import Lodging.Listing.Filter
import Lodging.Sync.Service
import Lodging.Web.Handler

/-!
# Scripts

A rehearsal tries the services out without a network: calendars and partners answer as a script says,
and the clock moves only when everybody waits. Here is what the script can say, what happens in it step
by step, and what is noted down.
-/

namespace Lodging.Rehearsal

open Listing (Demand Reference Visit)
open Timed (Eventual)

/-- What a calendar answers, and after how many milliseconds. -/
structure Document where
  content : Sync.Download
  delay : Nat

/-- The answer where the script knows no calendar. -/
def Document.unknown : Document := ⟨.error (.fetch "no route"), 0⟩

inductive Manner where
  | respond
  | fail
  | hang
  deriving DecidableEq, Repr

structure Conduct where
  manner : Manner
  delay : Nat
  listings : List Listing

namespace Conduct

/-- The failure of the named partner. -/
def outage (name : String) : Listing.Error := .internal (name ++ " is down")

def search (c : Conduct) (name : String) : Eventual (Except Listing.Error (List Listing)) :=
  match c.manner with
  | .respond => .after c.delay (.ok c.listings)
  | .fail => .after c.delay (.error (outage name))
  | .hang => .never

def lookup (c : Conduct) (name : String) (i : Listing.Inquiry) : Except Listing.Error Listing :=
  match c.manner, c.listings.find? (·.id == i.id) with
  | .fail, _ => .error (outage name)
  | _, none => .error (.notFound i.id)
  | _, some l => Listing.handOut i.demand i.id l

end Conduct

/-- How a listing is named when it is asked for. -/
inductive Target where
  | text (raw : String)
  | reference (r : Reference)
  deriving DecidableEq, Repr

inductive Step where
  | insert (r : Record)
  | serve (url : String) (d : Document)
  | fail (down : Outage)
  | conduct (partner : String) (c : Conduct)
  | sleep (ms : Nat)
  -- calls on calendars
  | call (r : Sync.Request)
  | runOnce
  | getFeeds (listing : Int)
  | getBlocks (listing : Int)
  -- the stores themselves
  | findListings (f : Listing.Filter)
  | findById (id : Int)
  | allBlocks
  | findFeeds (listing : Option Int)
  | replaceFeeds (listing : Int) (urls : List String)
  | replaceBlocks (listing : Int) (url : String) (periods : List Period)
  | findOverlapping (listings : List Int) (window : Period)
  -- searches and lookups
  | search (q : Query)
  | searchInHouse (q : Query)
  | lookup (demand : Demand) (t : Target) (reservations : Bool)
  | http (r : Web.Request)
  -- logs since they were last shown
  | fetchLog
  | geocodeLog
  | partnerLog
  | partnerNames
  -- concurrency
  | spawn (name : String) (step : Step)
  | join (name : String)
  | startRefresher
  | stopRefresher
  | dropRefresher
  | isRefresherRunning

/-- The start or the end of a download. -/
structure FetchEntry where
  time : Nat
  isEnd : Bool
  url : String
  deriving DecidableEq, Repr

inductive Answer where
  | done
  | flag (b : Bool)
  | names (ns : List String)
  | feeds (r : Except Calendar.Error (List Calendar.Feed))
  | blocks (r : Except Calendar.Error (List Calendar.Block))
  | outcome (o : Sync.Outcome)
  | summary (r : Except Calendar.Error Sync.Summary)
  | records (r : Except Listing.Error (List Record))
  | record (r : Except Listing.Error (Option Record))
  | listings (r : Except Listing.Error (List Listing))
  | listing (r : Except Listing.Error Listing)
  | response (r : Web.Response)
  | fetches (es : List FetchEntry)
  | visits (vs : List (String × List Visit))
  /-- There is no such task, or it was asked for before. -/
  | noTask

/-- How the outcome of a call is shown. -/
inductive View where
  | plain
  | summary
  /-- As the response to a request on the listing. -/
  | response (listing : Int)
  deriving DecidableEq, Repr

def View.answer (v : View) (o : Sync.Outcome) : Answer :=
  match v with
  | plain => .outcome o
  | response listing => .response (.ofOutcome listing o)
  | summary => .summary <|
    match o with
    | .blocks bs => .ok (.ofBlocks bs)
    | .feeds fs => .ok ⟨fs.length, 0⟩
    | .failed e => .error e

end Lodging.Rehearsal
