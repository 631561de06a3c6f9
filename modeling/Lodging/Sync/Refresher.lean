import Lodging.Sync.Service

/-!
# Starting and stopping the background loop

Whoever starts the loop keeps a handle on it, and a start does nothing as long as the loop behind the
handle runs. A stop takes the handle away, tells the loop to end and waits for that: the loop goes on
until it comes to a point at which it can be given up, together with the pass that is at work. Only
then does the stop return, and until then nothing else is started or stopped.
-/

namespace Lodging.Sync

/-- A pass that was begun: when, by which loop, and the call that it is. -/
structure Beginning where
  time : Nat
  loop : Nat
  call : Nat
  deriving DecidableEq, Repr

structure Refresher where
  /-- How many feeds make a batch. -/
  batchSize : Nat
  /-- The milliseconds between passes that were asked for. -/
  interval : Nat
  sync : State
  /-- All loops that were ever started; those that have ended are `none`. -/
  loops : List (Option Loop)
  /-- The loop that was started last, unless it was stopped. -/
  handle : Option Nat
  /-- The loop that was told to end, until the stop returns. -/
  ending : Option Nat
  /-- The passes of all loops, in the order in which they began. -/
  passes : List Beginning

namespace Refresher

inductive Happening where
  | call (e : Event)
  | start
  /-- A pass of a loop begins. -/
  | tick (loop : Nat)
  /-- A loop finds its pass over. -/
  | settle (loop : Nat)
  /-- The loop is told to end. -/
  | stop
  /-- The loop that was told to end is given up. -/
  | giveUp
  /-- The stop returns. -/
  | stopped

def create (batchSize interval : Nat) : Refresher :=
  { batchSize, interval, sync := .empty, loops := [], handle := none, ending := none, passes := [] }

def loop? (r : Refresher) (n : Nat) : Option Loop := r.loops[n]?.join

def isRunning (r : Refresher) : Bool := r.handle.any fun n => (r.loop? n).isSome

def setLoop (r : Refresher) (n : Nat) (l : Option Loop) : Refresher :=
  { r with loops := r.loops.set n l }

/-- Starts a loop, unless one runs. Its first pass is due at once. -/
def start (r : Refresher) (now : Nat) : Refresher :=
  if r.isRunning then r
  else { r with loops := r.loops ++ [some ⟨now, none⟩], handle := some r.loops.length }

/-- Begins the pass of a loop that is due. -/
def tick? (r : Refresher) (n now : Nat) : Option Refresher :=
  let c := r.sync.calls.length
  ((r.loop? n).bind (·.tick? (Loop.period r.interval) now c)).map fun l =>
    { r.setLoop n (some l) with
      sync := r.sync.submit (.refresh none)
      passes := r.passes ++ [⟨now, n, c⟩] }

/-- A loop goes back to waiting when its pass is over. -/
def settle? (r : Refresher) (n : Nat) : Option Refresher :=
  ((r.loop? n).bind (·.settle? r.sync)).map fun l => r.setLoop n (some l)

/-- Gives the loop that was told to end up, and its pass with it. -/
def giveUp? (r : Refresher) : Option Refresher :=
  match r.ending with
  | some n => (r.loop? n).map fun l => { r.setLoop n none with sync := l.dropPass r.sync }
  | none => none

/-- The stop returns once the loop has ended. -/
def stopped? (r : Refresher) : Option Refresher :=
  match r.ending with
  | some n => if (r.loop? n).isNone then some { r with ending := none } else none
  | none => none

/-- What is left after something happened at some time, if it can happen. -/
def step? (r : Refresher) (now : Nat) : Happening → Option Refresher
  | .call e => (r.sync.step? r.batchSize e).map fun sync => { r with sync }
  | .start => if r.ending.isNone then some (r.start now) else none
  | .tick n => r.tick? n now
  | .settle n => r.settle? n
  | .stop => if r.ending.isNone then some { r with handle := none, ending := r.handle } else none
  | .giveUp => r.giveUp?
  | .stopped => r.stopped?

/-- What is left after things happened at these times, one after another, if all of them can. -/
def run? (r : Refresher) : List (Nat × Happening) → Option Refresher
  | [] => some r
  | (now, x) :: rest => (r.step? now x).bind (·.run? rest)

end Refresher

end Lodging.Sync
