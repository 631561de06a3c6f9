import Lodging.Calendar.Registration
import Lodging.Sync.Pass

/-!
# Calls

What is asked of the synchronisation of calendars: to give a listing new feeds, or to read feeds again.
A call waits for its lock if it needs one, then lists its feeds, and then makes a pass over them.
-/

namespace Lodging.Sync

open Calendar

inductive Request where
  /-- Registers these feeds for a listing instead of its old ones, and reads them. -/
  | setFeeds (listing : Int) (urls : List String)
  /-- Reads the feeds of one listing, or all feeds. -/
  | refresh (listing : Option Int)
  deriving DecidableEq, Repr

namespace Request

/-- The listing whose lock is held during the whole call. -/
def listing? : Request → Option Int
  | setFeeds listing _ => some listing
  | refresh listing => listing

/-- Whether the feeds take their locks one by one. -/
def guarded (r : Request) : Bool := r.listing?.isNone

/-- Refuses what is no list of web addresses. -/
def check : Request → Except Error Unit
  | setFeeds _ urls => checkUrls urls
  | refresh _ => .ok ()

end Request

inductive Outcome where
  /-- The feeds that were registered. -/
  | feeds (fs : List Feed)
  /-- For each feed the blocks that were written. -/
  | blocks (bs : List (List Block))
  | failed (e : Error)
  deriving DecidableEq

inductive Phase where
  /-- Has not listed its feeds. -/
  | waiting
  | passing (feeds : List Feed) (pass : Pass)
  | finished (outcome : Outcome)
  /-- Was given up. -/
  | dropped
  deriving DecidableEq

structure Call where
  request : Request
  phase : Phase
  deriving DecidableEq

namespace Call

def outcome? (k : Call) : Option Outcome :=
  match k.phase with
  | .finished o => some o
  | _ => none

def pass? (k : Call) : Option Pass :=
  match k.phase with
  | .passing _ p => some p
  | _ => none

def isOver (k : Call) : Bool :=
  match k.phase with
  | .finished _ => true
  | .dropped => true
  | _ => false

/-- The outcome after the last batch: new feeds are returned themselves, else what was written. -/
def outcomeOf (request : Request) (feeds : List Feed) (written : List (List Block)) : Outcome :=
  match request with
  | .setFeeds .. => .feeds feeds
  | .refresh _ => .blocks written

end Call

/-- How much a pass did. -/
structure Summary where
  feeds : Nat
  blocks : Nat
  deriving DecidableEq, Repr

namespace Summary

def ofBlocks (bs : List (List Block)) : Summary := ⟨bs.length, bs.flatten.length⟩

def toJson (s : Summary) : Json := .obj [("feeds", .ofNat s.feeds), ("blocks", .ofNat s.blocks)]

end Summary

end Lodging.Sync
