/-!
# Locks of listings

Work on the calendars of a listing is done under the lock of the listing. Locks come into being when
they are first asked for: a registry says which mutex belongs to a listing, and with every question the
mutexes that nobody holds or waits for are forgotten.

Whoever asks draws a ticket. Of the tickets for one mutex the oldest holds it and the others wait, so
the mutex is handed on in the order of arrival. A ticket is given back when its owner is done, or gives
up waiting.
-/

namespace Lodging.Sync

/-- A place in the queue for a mutex. -/
structure Ticket (α : Type) where
  owner : α
  listing : Int
  mutex : Nat
  deriving DecidableEq, Repr

structure Locks (α : Type) where
  /-- The mutexes that belong to listings. -/
  registry : List (Int × Nat)
  /-- The tickets that were drawn and not given back, oldest first. -/
  live : List (Ticket α)
  /-- All mutexes below it have been used. -/
  fresh : Nat

namespace Locks

variable {α : Type}

def empty : Locks α := ⟨[], [], 0⟩

/-- Whether anybody holds the mutex or waits for it. -/
def inUse (l : Locks α) (mutex : Nat) : Bool := l.live.any (·.mutex == mutex)

/-- The registry without the mutexes that nobody uses, save that of the listing. -/
def kept (l : Locks α) (listing : Int) : List (Int × Nat) :=
  l.registry.filter fun (id, mutex) => id == listing || l.inUse mutex

theorem mem_kept {l : Locks α} {listing id : Int} {mutex : Nat} :
    (id, mutex) ∈ l.kept listing ↔
      (id, mutex) ∈ l.registry ∧ (id = listing ∨ l.inUse mutex = true) := by
  simp [kept, List.mem_filter]

/-- Draws a ticket for the lock of a listing. -/
def lock (l : Locks α) (owner : α) (listing : Int) : Locks α :=
  match (l.kept listing).lookup listing with
  | some mutex =>
    { l with registry := l.kept listing, live := l.live ++ [⟨owner, listing, mutex⟩] }
  | none =>
    { registry := l.kept listing ++ [(listing, l.fresh)]
      live := l.live ++ [⟨owner, listing, l.fresh⟩]
      fresh := l.fresh + 1 }

def holder? (l : Locks α) (mutex : Nat) : Option (Ticket α) := l.live.find? (·.mutex == mutex)

variable [DecidableEq α]

def ticket? (l : Locks α) (owner : α) : Option (Ticket α) := l.live.find? (·.owner == owner)

/-- Whether the owner has a ticket that holds its mutex. -/
def holds (l : Locks α) (owner : α) : Bool :=
  match l.ticket? owner with
  | some t => l.holder? t.mutex == some t
  | none => false

/-- Gives the tickets back whose owners have the property. -/
def release (l : Locks α) (p : α → Bool) : Locks α :=
  { l with live := l.live.filter fun t => !p t.owner }

/-- The owners that hold their mutex, oldest tickets first. -/
def holders (l : Locks α) : List α :=
  (l.live.filter fun t => l.holder? t.mutex == some t).map (·.owner)

end Locks

end Lodging.Sync
