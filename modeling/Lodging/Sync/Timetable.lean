import Lodging.Sync.Locks

/-!
# The timetable of locks

When tasks that come at given times and keep the lock of a listing for given times get it. At every
moment the tasks that are due act one after another, in the order in which they became due; a task that
gets a lock from another one becomes due at that moment. Time moves when nobody is due.
-/

namespace Lodging.Sync.Timetable

/-- A task: when it asks for the lock of which listing, and how long it keeps it. -/
structure Task where
  arrival : Nat
  listing : Int
  hold : Nat
  deriving DecidableEq, Repr

inductive Move where
  | locked
  | released
  deriving DecidableEq, Repr

/-- What happened, and when. Tasks are known by their places in the list of tasks. -/
structure Entry where
  time : Nat
  move : Move
  task : Nat
  deriving DecidableEq, Repr

/-- What a task does when it is its turn. -/
inductive Action where
  /-- Looks at the clock. -/
  | begin
  | arrive
  | enter
  | leave
  deriving DecidableEq, Repr

structure State where
  now : Nat
  /-- Those whose turn it is, in order. -/
  due : List (Nat × Action)
  /-- Those whose turn comes later, in the order in which they started to wait. -/
  timers : List (Nat × Nat × Action)
  locks : Locks Nat
  log : List Entry

namespace State

/-- Lets a task act after some time; at once if there is nothing to wait for. -/
def wait (s : State) (ms task : Nat) (a : Action) : State :=
  if ms = 0 then { s with due := (task, a) :: s.due }
  else { s with timers := s.timers ++ [(s.now + ms, task, a)] }

def write (s : State) (m : Move) (task : Nat) : State :=
  { s with log := s.log ++ [⟨s.now, m, task⟩] }

/-- The locks without the ticket of the task; whoever holds its mutex now is due. -/
def leave (s : State) (task : Nat) : State :=
  let locks := s.locks.release (· == task)
  let next := ((s.locks.ticket? task).bind fun t => locks.holder? t.mutex).toList
  { s with locks, due := s.due ++ next.map fun t => (t.owner, .enter) }

def act (s : State) (id : Nat) (t : Task) : Action → State
  | .begin => s.wait t.arrival id .arrive
  | .arrive =>
    let s := { s with locks := s.locks.lock id t.listing }
    if s.locks.holds id then { s with due := (id, .enter) :: s.due } else s
  | .enter => (s.write .locked id).wait t.hold id .leave
  | .leave => (s.write .released id).leave id

/-- Moves on to the next time at which somebody is due. -/
def advance? (s : State) : Option State :=
  (s.timers.map (·.1)).min?.map fun time =>
    { s with
      now := time
      due := (s.timers.filter (·.1 == time)).map (·.2)
      timers := s.timers.filter (·.1 != time) }

/-- The next thing that happens, if anything does. -/
def step? (tasks : List Task) (s : State) : Option State :=
  match s.due with
  | [] => s.advance?
  | (id, a) :: rest => some <|
    match tasks[id]? with
    | some t => { s with due := rest }.act id t a
    | none => { s with due := rest }

def run (tasks : List Task) : Nat → State → State
  | 0, s => s
  | n + 1, s =>
    match s.step? tasks with
    | some s => run tasks n s
    | none => s

end State

/-- All tasks are under way and look at the clock in turn. -/
def initial (tasks : List Task) : State :=
  { now := 0
    due := (List.range tasks.length).map (·, .begin)
    timers := []
    locks := .empty
    log := [] }

/-- The log of the tasks. Each task acts four times, and time moves at most twice for it. -/
def log (tasks : List Task) : List Entry :=
  ((initial tasks).run tasks (6 * tasks.length)).log

end Lodging.Sync.Timetable
