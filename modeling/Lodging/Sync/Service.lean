import Lodging.Sync.Step

/-!
# The background loop

Beside the calls that are made from outside, a loop reads all feeds again at intervals. A pass begins
when it is due and the one before it is over. After a pass that began in time the next one is due one
interval after the time it was due; after one that began late, one interval after it began, so missed
passes are not made up for. Stopping the loop gives its pass up.
-/

namespace Lodging.Sync

/-- The loop while it runs. -/
structure Loop where
  /-- When the next pass may begin. -/
  due : Nat
  /-- The call of the pass that is at work. -/
  call : Option Nat
  deriving DecidableEq, Repr

namespace Loop

/-- The milliseconds between passes where this many were asked for: at least a second. -/
def period (interval : Nat) : Nat := max interval 1000

/-- A pass that begins this many milliseconds after it was due is still in time. -/
def tolerance : Nat := 5

/-- When a pass is due after one that was due at `due` and begins now. -/
def nextDue (period now due : Nat) : Nat :=
  if due + tolerance < now then now + period else due + period

/-- The loop once its pass has begun as call `c`, if one is due. -/
def tick? (l : Loop) (period now c : Nat) : Option Loop :=
  match l with
  | ⟨due, none⟩ => if due ≤ now then some ⟨nextDue period now due, some c⟩ else none
  | ⟨_, some _⟩ => none

/-- The loop back at waiting, if its pass is over, however it ended. -/
def settle? (l : Loop) (sync : State) : Option Loop :=
  match l with
  | ⟨due, some c⟩ => if (sync.calls[c]?).all (·.isOver) then some ⟨due, none⟩ else none
  | ⟨_, none⟩ => none

/-- The calls once the pass of the loop is given up. -/
def dropPass (l : Loop) (sync : State) : State :=
  match l.call with
  | some c => (sync.drop? c).getD sync
  | none => sync

end Loop

structure Service where
  /-- How many feeds make a batch. -/
  batchSize : Nat
  /-- The milliseconds between passes that were asked for. -/
  interval : Nat
  sync : State
  loop : Option Loop

inductive Signal where
  | call (e : Event)
  | start
  | stop
  /-- A pass of the loop begins. -/
  | tick
  /-- The loop finds its pass over. -/
  | settle

namespace Service

def create (batchSize interval : Nat) : Service := ⟨batchSize, interval, .empty, none⟩

def call? (s : Service) (e : Event) : Option Service :=
  (s.sync.step? s.batchSize e).map fun sync => { s with sync }

/-- Starts the loop, unless it runs. Its first pass is due at once. -/
def start (s : Service) (now : Nat) : Service :=
  match s.loop with
  | some _ => s
  | none => { s with loop := some ⟨now, none⟩ }

def tick? (s : Service) (now : Nat) : Option Service :=
  (s.loop.bind (·.tick? (Loop.period s.interval) now s.sync.calls.length)).map fun l =>
    { s with sync := s.sync.submit (.refresh none), loop := some l }

def settle? (s : Service) : Option Service :=
  (s.loop.bind (·.settle? s.sync)).map fun l => { s with loop := some l }

def stop (s : Service) : Service :=
  { s with sync := s.loop.elim s.sync (·.dropPass s.sync), loop := none }

/-- The service after a signal at some time, if the signal can happen. -/
def step? (s : Service) (now : Nat) : Signal → Option Service
  | .call e => s.call? e
  | .start => some (s.start now)
  | .stop => some s.stop
  | .tick => s.tick? now
  | .settle => s.settle?

end Service

end Lodging.Sync
