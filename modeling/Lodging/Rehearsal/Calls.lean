import Lodging.Rehearsal.World

/-!
# Carrying calls on

How far a call comes until it has to wait. A call on one listing finds its lock in the table of locks and
takes it, then lists its feeds with the store; a call on all feeds lists them at once. The feeds of a
batch are carried on together, and once all of them are done the next batch begins.
-/

namespace Lodging.Rehearsal.World

/-- Lets a strand need something. The place in the queue for a lock was taken when the lock was found. -/
def need (w : World) (s : Strand) (n : Need) : World := w.setStanding s (.needs n (n == .lock))

/-- Lets a strand need the store, unless the store is down for its question anyway. -/
def needStore (w : World) (s : Strand) (a : Access) (alone : Bool) (ask : World → World) : World :=
  if w.down.contains a then ask w else w.need s (.store alone)

/-! ## The call itself -/

def call? (w : World) (a : Actor) : Option Nat := (w.errand? a).bind (·.call)

def pass? (w : World) (a : Actor) : Option Sync.Pass :=
  ((w.call? a).bind (w.sync.calls[·]?)).bind (·.pass?)

def submit (w : World) (a : Actor) (e : Errand) : World :=
  let w := w.setErrand a { e with call := some w.sync.calls.length }
  { w with callers := w.callers ++ [a] }.event (.submit e.request)

def beginBatch (w : World) (a : Actor) : World :=
  match w.errand? a, w.pass? a with
  | some e, some p =>
    let n := p.batch.length
    w.setErrand a { e with feeds := List.replicate n .fresh, woken := List.range n }
  | _, _ => w

def list (a : Actor) (w : World) : World :=
  match w.call? a with
  | some c => ((w.event (.list c w.down)).setStanding ⟨a, none⟩ .over).beginBatch a
  | none => w

def toList (w : World) (a : Actor) : Sync.Request → World
  | .setFeeds .. => w.needStore ⟨a, none⟩ .replaceFeeds true (list a)
  | .refresh _ => w.needStore ⟨a, none⟩ .findFeeds false (list a)

/-- Begins an errand. A request that is refused is answered at once. -/
def beginCall (w : World) (a : Actor) (e : Errand) : World :=
  if !e.request.check.isOk then (w.submit a e).setStanding ⟨a, none⟩ .over
  else if e.request.guarded then (w.submit a e).toList a e.request
  else w.need ⟨a, none⟩ .lockTable

/-- Begins the pass of the background loop that is due. -/
def tick (w : World) (a : Actor) (e : Errand) : World :=
  match w.service.tick? w.now with
  | some service =>
    let c := w.sync.calls.length
    (({ w with callers := w.callers ++ [a] }.setService service).setErrand a
      { e with call := some c }).toList a e.request
  | none => w

/-- The call goes on with what it needed; the background loop needs a time before it makes one. -/
def obtainCall (w : World) (a : Actor) (e : Errand) : Need → World
  | .lockTable => ((w.leaveLockTable (· == ⟨a, none⟩)).submit a e).need ⟨a, none⟩ .lock
  | .lock => w.toList a e.request
  | .store _ => list a (w.leaveStore (· == ⟨a, none⟩))
  | .time _ => w.tick a e

/-! ## Its feeds -/

def write (a : Actor) (c i : Nat) (w : World) : World :=
  (w.event (.write c i w.down)).setStanding ⟨a, some i⟩ .over

def toWrite (w : World) (a : Actor) (c i : Nat) : World :=
  w.needStore ⟨a, some i⟩ .replaceBlocks true (write a c i)

/-- Looks a feed up again, and goes on to write its blocks if it is there. -/
def recheck (a : Actor) (c i : Nat) (w : World) : World :=
  let w := w.event (.recheck c i w.down)
  match w.sync.slot? c i with
  | some (_, ⟨_, .cleared _⟩) => w.toWrite a c i
  | _ => w.setStanding ⟨a, some i⟩ .over

def endTransfer (w : World) (a : Actor) (c i : Nat) : World :=
  match w.transfers.find? fun t => t.call == c && t.slot == i with
  | some t =>
    let w := { w with transfers := w.transfers.filter fun t => !(t.call == c && t.slot == i) }
    let w := (w.event (.receive c i t.content)).noteFetch true t.url
    match w.sync.slot? c i with
    | some (p, _) => if p.guarded then w.need ⟨a, some i⟩ .lockTable else w.toWrite a c i
    | none => w
  | none => w

/-- Starts the download of a feed. Without delay it is over at once. -/
def startTransfer (w : World) (a : Actor) (c i : Nat) : World :=
  match w.sync.slot? c i with
  | some (_, ⟨feed, _⟩) =>
    let d := (w.documents.lookup feed.url).getD .unknown
    let w := (w.event (.send c i)).noteFetch false feed.url
    let due := w.now + d.delay
    let w := { w with transfers := ⟨c, i, feed.url, due, d.content⟩ :: w.transfers }
    if d.delay = 0 then w.endTransfer a c i else w.need ⟨a, some i⟩ (.time due)
  | none => w

/-- A feed goes on with what it needed. -/
def obtainFeed (w : World) (a : Actor) (c i : Nat) : Need → World
  | .time _ => w.endTransfer a c i
  | .lockTable =>
    ((w.leaveLockTable (· == ⟨a, some i⟩)).event (.lineUp c i)).need ⟨a, some i⟩ .lock
  | .lock => w.needStore ⟨a, some i⟩ .findFeeds false (recheck a c i)
  | .store true => write a c i (w.leaveStore (· == ⟨a, some i⟩))
  | .store false => recheck a c i (w.leaveStore (· == ⟨a, some i⟩))

/-! ## Strands -/

def begin (w : World) (s : Strand) : World :=
  match w.errand? s.actor, s.slot with
  | some e, none => w.beginCall s.actor e
  | some e, some i => (e.call.map fun c => w.startTransfer s.actor c i).getD w
  | none, _ => w

/-- A strand goes on with what it needed. -/
def goOn (w : World) (s : Strand) (n : Need) : World :=
  match w.errand? s.actor, s.slot with
  | some e, none => w.obtainCall s.actor e n
  | some e, some i => (e.call.map fun c => w.obtainFeed s.actor c i n).getD w
  | none, _ => w

/-- Asks for what a strand needs. The place in the queue for a lock is taken already. -/
def ask (w : World) (s : Strand) : Need → World
  | .time t => w.setAlarm t s
  | .lockTable => { w with lockTable := w.lockTable.ask s true }
  | .lock => w
  | .store alone => { w with store := w.store.ask s alone }

/-- Whether a strand has what it needs, attention apart. -/
def has (w : World) (s : Strand) : Need → Bool
  | .time t => t ≤ w.now
  | .lockTable => w.lockTable.inside.contains s
  | .lock => (w.call? s.actor).any fun c => w.sync.locks.holds ⟨c, s.slot⟩
  | .store _ => w.store.inside.contains s

/-- A strand makes known what it needs, unless it has done so. -/
def askOnce (w : World) (s : Strand) (n : Need) (asked : Bool) : World :=
  if asked then w else (w.ask s n).setStanding s (.needs n true)

/-- One act of a strand, and whether it can go on. Without attention a strand still asks for what it has
to share with others, and keeps it; but it does not look at the clock. -/
def act (w : World) (s : Strand) : World × Bool :=
  match w.standing s with
  | .fresh => (w.begin s, true)
  | .over => (w, false)
  | .needs (.time t) asked =>
    if w.attention = 0 then (w.tire s, false)
    else if t ≤ w.now then ((w.spend 1).goOn s (.time t), true)
    else (w.askOnce s (.time t) asked, false)
  | .needs n asked =>
    let w := w.askOnce s n asked
    if !w.has s n then (w, false)
    else if w.attention = 0 then (w.tire s, false)
    else ((w.spend 1).goOn s n, true)

/-- A strand goes on until it has to wait. It needs five things at most. -/
def carryStrand (w : World) (s : Strand) : World := go 8 w
where
  go : Nat → World → World
    | 0, w => w
    | n + 1, w =>
      match w.act s with
      | (w, true) => go n w
      | (w, false) => w

/-! ## Batches -/

/-- The feeds of a large batch act as they were woken. When all that are left have acted since one was
done, the actor lets others act before it goes on; `idle` counts them. -/
def carryWoken (a : Actor) : Nat → Nat → World → World
  | 0, _, w => w
  | n + 1, idle, w =>
    match w.errand? a with
    | some e =>
      match e.woken with
      | [] => w
      | i :: rest =>
        let live := (e.feeds.filter (· != .over)).length
        let w := (w.setErrand a { e with woken := rest }).carryStrand ⟨a, some i⟩
        if w.standing ⟨a, some i⟩ == .over then carryWoken a n 0 w
        else if idle + 1 = live then w.wakeActor a
        else carryWoken a n (idle + 1) w
    | none => w

/-- Carries the feeds of the batch at work on. -/
def carryBatch (w : World) (a : Actor) : World :=
  match w.errand? a with
  | some e =>
    let n := e.feeds.length
    if n ≤ crowd then (List.range n).foldl (fun w i => w.carryStrand ⟨a, some i⟩) w
    else carryWoken a ((n + 1) * (n + 1)) 0 w
  | none => w

/-- Carries at most so many batches on. -/
def carryBatches (a : Actor) (c : Nat) : Nat → World → World
  | 0, w => w
  | n + 1, w =>
    let w := w.carryBatch a
    match w.event? (.turn c) with
    | some w => carryBatches a c n (w.beginBatch a)
    | none => w

def carryErrand (w : World) (a : Actor) : World :=
  let w := w.carryStrand ⟨a, none⟩
  match w.call? a, w.pass? a with
  | some c, some p => carryBatches a c (p.rest.length + 1) w
  | _, _ => w

/-- The outcome of an actor's call, once it is over. -/
def outcome? (w : World) (a : Actor) : Option Sync.Outcome :=
  ((w.call? a).bind (w.sync.calls[·]?)).bind (·.outcome?)

end Lodging.Rehearsal.World
