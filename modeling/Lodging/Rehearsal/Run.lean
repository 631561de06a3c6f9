import Lodging.Rehearsal.Steps

/-!
# Running a rehearsal

The main actor acts first, then the tasks in the order in which they were woken, then the background
loop. When all that were woken have acted, those whose attention was used up are woken again; when there
are none the clock moves on to the next alarm. The rehearsal is over when the main actor has gone through
its steps.
-/

namespace Lodging.Rehearsal

/-- Where the main actor stands: the step that it is at, the steps that are left, and the answers so far
with the times at which they came, last first. -/
structure Main where
  step : Option Progress
  rest : List Step
  answers : List (Nat × Answer)

namespace Main

/-- The main actor goes on until it has to wait or is done. -/
def act : Nat → World → Main → World × Main
  | 0, w, m => (w, m)
  | n + 1, w, m =>
    match m.step, m.rest with
    | none, [] => (w, m)
    | none, s :: rest => act n w { m with step := some (.ready s), rest }
    | some p, _ =>
      match w.progress .main p with
      | (w, .over a) => act n w { m with step := none, answers := (w.now, a) :: m.answers }
      | (w, p) => (w, { m with step := some p })

/-- The turn of the main actor. Each step is begun once and ends once. -/
def turn (w : World) (m : Main) : World × Main :=
  act (2 * m.rest.length + 2)
    { w with mainWoken := false, attention := span, acting := some .main } m

def isOver (m : Main) : Bool := m.step.isNone && m.rest.isEmpty

end Main

namespace World

def finishTask (w : World) (n : Nat) : World :=
  ((w.joiners.filter (·.1 == n)).map (·.2)).foldl wakeActor
    { w with joiners := w.joiners.filter (·.1 != n) }

def taskTurn (w : World) (n : Nat) : World :=
  match w.tasks[n]? with
  | none | some (.over _) => w
  | some p =>
    let (w, p) :=
      { w with attention := span, acting := some (.task n), again := false }.progress (.task n) p
    let w := { w with tasks := w.tasks.set n p, acting := none }
    match p with
    | .over _ => w.finishTask n
    | _ => if w.again then w.wakeActor (.task n) else w

/-- At most so many turns of tasks. -/
def taskTurns : Nat → World → World
  | 0, w => w
  | n + 1, w =>
    match w.queue with
    | [] => w
    | k :: rest => taskTurns n ({ w with queue := rest }.taskTurn k)

/-- At most so many turns of the loop. -/
def loopTurns : Nat → World → World
  | 0, w => w
  | n + 1, w =>
    if w.loopWoken then
      loopTurns n
        { w with loopWoken := false, attention := span, acting := some .loop }.actLoop
    else w

def isAwake (w : World) : Bool := w.mainWoken || w.loopWoken || !w.queue.isEmpty

/-- A round of turns, and what wakes somebody for the next one; `none` if nothing does. -/
def round? (w : World) (m : Main) : Option (World × Main) :=
  let (w, m) := if w.mainWoken then m.turn w else (w, m)
  if m.isOver then some (w, m)
  else
    let w := loopTurns round (taskTurns round { w with acting := none })
    let w := { w with acting := none }
    if !w.tired.isEmpty then some (w.rouse, m)
    else if w.isAwake then some (w, m)
    else w.advance?.map (·, m)

def run : Nat → World → Main → World × Main
  | 0, w, m => (w, m)
  | n + 1, w, m =>
    if m.isOver then (w, m)
    else
      match w.round? m with
      | some (w, m) => run n w m
      | none => (w, m)

/-- The answers to the steps of a script, with the times at which they came. `patience` is the number of
rounds after which the rehearsal is given up. -/
def rehearse (w : World) (patience : Nat) (steps : List Step) : List (Nat × Answer) :=
  ({ w with mainWoken := true }.run patience ⟨none, steps, []⟩).2.answers.reverse

end World

end Lodging.Rehearsal
