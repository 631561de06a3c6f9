import Lodging.Calendar.Access
import Lodging.Calendar.Document
import Lodging.Sync.Call
import Lodging.Sync.Locks

/-!
# Steps of concurrent calls

Any number of calls work on one store, and their steps follow one another in any order. Each step is
atomic: a question to the store, the start or the end of a download, a place in the queue for a lock.
Every question to the store may fail, and a call may be given up between any two of its steps.

A call on one listing holds the lock of the listing from before it lists its feeds until its last batch
is done. A call on all feeds holds locks only to look a feed up again and to write its blocks.
-/

namespace Lodging.Sync

open Calendar

/-- Who takes locks: a call, or a feed in the batch of a call. -/
structure Party where
  call : Nat
  slot : Option Nat
  deriving DecidableEq, Repr

structure State where
  store : Store
  locks : Locks Party
  /-- All calls that were ever made, in their order. -/
  calls : List Call

/-- A downloaded text, or why there is none. -/
abbrev Download := Except Error String

inductive Event where
  | submit (r : Request)
  /-- Lists the feeds of a call. -/
  | list (call : Nat) (down : Outage)
  | send (call slot : Nat)
  | receive (call slot : Nat) (d : Download)
  | lineUp (call slot : Nat)
  /-- Looks a feed up again. -/
  | recheck (call slot : Nat) (down : Outage)
  | write (call slot : Nat) (down : Outage)
  /-- Goes on to the next batch, or ends the call. -/
  | turn (call : Nat)
  | drop (call : Nat)

namespace State

def empty : State := ⟨.empty, .empty, []⟩

def setPhase (s : State) (c : Nat) (phase : Phase) : State :=
  { s with calls := s.calls.modify c fun k => { k with phase } }

def releaseCall (s : State) (c : Nat) : State :=
  { s with locks := s.locks.release (·.call == c) }

def releaseSlot (s : State) (c i : Nat) : State :=
  { s with locks := s.locks.release (· == ⟨c, some i⟩) }

def finish (s : State) (c : Nat) (o : Outcome) : State :=
  (s.setPhase c (.finished o)).releaseCall c

/-- A call that is refused ends at once; any other draws a ticket if it needs a lock. -/
def submit (s : State) (r : Request) : State :=
  match r.check with
  | .error e => { s with calls := s.calls ++ [⟨r, .finished (.failed e)⟩] }
  | .ok () =>
    let locks := match r.listing? with
      | some listing => s.locks.lock ⟨s.calls.length, none⟩ listing
      | none => s.locks
    { s with locks, calls := s.calls ++ [⟨r, .waiting⟩] }

/-- Whether a call has the lock that it needs to list its feeds. -/
def mayList (s : State) (c : Nat) (r : Request) : Bool :=
  r.guarded || s.locks.holds ⟨c, none⟩

/-- The feeds of a call, and the store that holds them. Repeated URLs are registered once. -/
def listFeeds (store : Store) (down : Outage) : Request → Except Error (Store × List Feed)
  | .setFeeds listing urls => ask down .replaceFeeds (store.replaceFeeds listing (distinct urls))
  | .refresh listing => ask down .findFeeds (store, store.findFeeds listing)

def list? (size : Nat) (s : State) (c : Nat) (down : Outage) : Option State :=
  match s.calls[c]? with
  | some ⟨r, .waiting⟩ =>
    if s.mayList c r then some <|
      match listFeeds s.store down r with
      | .ok (store, feeds) =>
        { s with store }.setPhase c (.passing feeds (.start r.guarded size feeds))
      | .error e => s.finish c (.failed e)
    else none
  | _ => none

/-- The pass of a call with the feed at a place of its batch. -/
def slot? (s : State) (c i : Nat) : Option (Pass × Slot) :=
  match s.calls[c]? with
  | some ⟨_, .passing _ p⟩ => p.batch[i]?.map (p, ·)
  | _ => none

def setStage (s : State) (c i : Nat) (stage : Stage) : State :=
  { s with calls := s.calls.modify c fun k =>
      match k.phase with
      | .passing feeds p => { k with phase := .passing feeds (p.setStage i stage) }
      | _ => k }

def send? (s : State) (c i : Nat) : Option State :=
  match s.slot? c i with
  | some (_, ⟨_, .idle⟩) => some (s.setStage c i .fetching)
  | _ => none

/-- The periods of a document. There are none if it cannot be downloaded or read. -/
def periodsOf (d : Download) : List Period :=
  match d >>= fun text => readDocument text with
  | .ok ps => ps
  | .error _ => []

def receive? (s : State) (c i : Nat) (d : Download) : Option State :=
  match s.slot? c i with
  | some (_, ⟨_, .fetching⟩) => some (s.setStage c i (.fetched (periodsOf d)))
  | _ => none

def lineUp? (s : State) (c i : Nat) : Option State :=
  match s.slot? c i with
  | some (p, ⟨feed, .fetched ps⟩) =>
    if p.guarded then
      some { s.setStage c i (.queued ps) with locks := s.locks.lock ⟨c, some i⟩ feed.listing }
    else none
  | _ => none

/-- Whether the row of a feed is in the store still. -/
def isRegistered (store : Store) (feed : Feed) : Bool :=
  (store.findFeeds (some feed.listing)).any (·.id == feed.id)

/-- A feed that is gone, or cannot be looked up, is skipped and gives its lock back. -/
def recheck? (s : State) (c i : Nat) (down : Outage) : Option State :=
  match s.slot? c i with
  | some (_, ⟨feed, .queued ps⟩) =>
    if s.locks.holds ⟨c, some i⟩ then some <|
      match ask down .findFeeds (isRegistered s.store feed) with
      | .ok true => s.setStage c i (.cleared ps)
      | _ => (s.setStage c i (.done [])).releaseSlot c i
    else none
  | _ => none

/-- The periods that a feed is about to write, if it may. -/
def toWrite? (p : Pass) : Stage → Option (List Period)
  | .fetched ps => if p.guarded then none else some ps
  | .cleared ps => if p.guarded then some ps else none
  | _ => none

/-- For which feed a slot is ready to be written, and what. -/
def writes? (s : State) (c i : Nat) : Option (Feed × List Period) :=
  (s.slot? c i).bind fun (p, slot) => (toWrite? p slot.stage).map (slot.feed, ·)

/-- A failed write leaves the old blocks in place. -/
def write? (s : State) (c i : Nat) (down : Outage) : Option State :=
  (s.writes? c i).map fun (feed, ps) =>
    (match ask down .replaceBlocks (s.store.replaceBlocks feed.listing feed.url ps) with
    | .ok (store, blocks) => { s with store }.setStage c i (.done blocks)
    | .error _ => s.setStage c i (.done [])).releaseSlot c i

def turn? (s : State) (c : Nat) : Option State :=
  match s.calls[c]? with
  | some ⟨r, .passing feeds p⟩ =>
    p.written?.map fun written =>
      if p.rest.isEmpty then s.finish c (Call.outcomeOf r feeds (p.results ++ written))
      else s.setPhase c (.passing feeds (p.next written))
  | _ => none

def drop? (s : State) (c : Nat) : Option State :=
  match s.calls[c]? with
  | some k => if k.isOver then none else some ((s.setPhase c .dropped).releaseCall c)
  | none => none

def step? (size : Nat) (s : State) : Event → Option State
  | .submit r => some (s.submit r)
  | .list c down => s.list? size c down
  | .send c i => s.send? c i
  | .receive c i d => s.receive? c i d
  | .lineUp c i => s.lineUp? c i
  | .recheck c i down => s.recheck? c i down
  | .write c i down => s.write? c i down
  | .turn c => s.turn? c
  | .drop c => s.drop? c

def run? (size : Nat) (s : State) : List Event → Option State
  | [] => some s
  | e :: es => (s.step? size e).bind (·.run? size es)

theorem run?_append (size : Nat) (s : State) (es fs : List Event) :
    s.run? size (es ++ fs) = (s.run? size es).bind (·.run? size fs) := by
  induction es generalizing s with
  | nil => rfl
  | cons e es ih => cases h : s.step? size e <;> simp [run?, h, ih]

end State

end Lodging.Sync
