import Lodging.Rehearsal.Calls

/-!
# The background loop in a rehearsal

The loop begins and ends in turns of its own: whoever starts or stops it leaves an order for its next
turn. Between two passes it needs nothing but the time at which the next one is due.
-/

namespace Lodging.Rehearsal.World

/-- Whether the loop runs, as far as anybody knows who gives it orders. -/
def isLoopRunning (w : World) : Bool := w.orders.start || (w.service.loop.isSome && !w.orders.stop)

def orderStart (w : World) : World :=
  if w.isLoopRunning then w
  else { w with orders := { w.orders with start := true } }.wakeActor .loop

/-- Orders the loop to end, if it runs. A loop that has not had a turn yet just does not begin. -/
def orderStop (w : World) : World :=
  if w.orders.start then { w with orders := { w.orders with start := false } }.wakeActor .loop
  else if w.service.loop.isSome then
    { w with orders := { w.orders with stop := true } }.wakeActor .loop
  else w

/-- The loop gives its pass up and everything that it holds or asked for. -/
def endLoop (w : World) : World :=
  let mine (s : Strand) : Bool := s.actor == .loop
  let w := ((w.setService w.service.stop).leaveLockTable mine).leaveStore mine
  { w.endErrand .loop with
    alarms := w.alarms.filter (!mine ·.2)
    tired := w.tired.filter (!mine ·) }

/-- The loop waits for the next pass. -/
def awaitPass (w : World) : World :=
  match w.service.loop with
  | some ⟨due, none⟩ =>
    w.setErrand .loop ⟨.refresh none, none, .needs (.time due) false, [], []⟩
  | _ => w

def followOrders (w : World) : World :=
  let orders := w.orders
  let w := { w with orders := {}, stoppers := [] }
  let w := if orders.stop then w.endLoop else w
  if orders.start then { w with service := w.service.start w.now }.awaitPass else w

/-- The loop goes on with its pass; when that is over it waits for the next one, which may be due. -/
def carryLoop : Nat → World → World
  | 0, w => w
  | n + 1, w =>
    let w := w.carryErrand .loop
    match w.service.settle? with
    | some service => carryLoop n (w.setService service).awaitPass
    | none => w

/-- The turn of the loop. Of three passes in a row the last cannot be due. -/
def actLoop (w : World) : World :=
  let waiting := w.stoppers
  let w := carryLoop 3 w.followOrders
  waiting.foldl wakeActor w

end Lodging.Rehearsal.World
