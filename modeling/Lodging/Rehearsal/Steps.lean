import Lodging.Rehearsal.Loop

/-!
# Steps of a rehearsal

What each step needs before it begins, what it does then, and what it waits for afterwards. Most steps
are over at once; calls and searches take their time.
-/

namespace Lodging.Rehearsal

open Timed (Eventual)

namespace World

/-! ## What a step does -/

def await (w : World) : Eventual Answer → Wait
  | .after 0 a => .over a
  | .after ms a => .until (w.now + ms) a
  | .never => .forever

def beginErrand (w : World) (actor : Actor) (r : Sync.Request) (v : View) : World × Wait :=
  (w.setErrand actor ⟨r, none, .fresh, [], []⟩, .call v)

/-- Asks everyone. The in-house provider answers at once. -/
def beginSearch (w : World) (q : Query)
    (present : Except Listing.Error (List Listing) → Answer) : World × Wait :=
  let (own, asked) := w.inHouse.search q
  let w := { w with geocoded := w.geocoded ++ asked }
  (w, w.await ((w.registry.search (.after 0 own) w.partnerSearch).map present))

def beginHttp (w : World) (actor : Actor) (r : Web.Request) : World × Wait :=
  let (action, visits) := w.services.handle r
  let w := w.noteVisits visits
  match action with
  | .respond r => (w, .over (.response r))
  | .search q => w.beginSearch q fun r => .response (.ofListings r)
  | .setFeeds n urls => w.beginErrand actor (.setFeeds n urls) (.response n)
  | .refresh listing => w.beginErrand actor (.refresh listing) (.response 0)

def beginLookup (w : World) (demand : Listing.Demand) (t : Target) (reservations : Bool) :
    World × Wait :=
  let ref := match t with
    | .text raw => w.registry.parse raw
    | .reference r => r
  let (result, visits) :=
    w.registry.lookup w.inHouse.lookup w.partnerLookup demand ref reservations
  (w.noteVisits visits, .over (.listing result))

/-- Asks the calendar store and goes on with the store that the answer leaves. -/
def change {α : Type} (w : World) (a : Access) (r : Calendar.Store × α)
    (present : Except Calendar.Error α → Answer) : World × Wait :=
  match Calendar.ask w.down a r with
  | .ok (store, x) => (w.setStore store, .over (present (.ok x)))
  | .error e => (w, .over (present (.error e)))

def takeHandle? (w : World) (name : String) : Option (World × Nat) :=
  (w.handles.lookup name).map fun n =>
    ({ w with handles := w.handles.filter (·.1 != name) }, n)

def addTask (w : World) (name : String) (s : Step) : World :=
  let n := w.tasks.length
  { w with
    tasks := w.tasks ++ [Progress.ready s]
    handles := (name, n) :: w.handles.filter (·.1 != name) }.wakeActor (.task n)

def perform (w : World) (actor : Actor) : Step → World × Wait
  | .insert r => ({ w with inventory := w.inventory.insert r }, .over .done)
  | .serve url d => ({ w with documents := (url, d) :: w.documents }, .over .done)
  | .fail down => ({ w with down }, .over .done)
  | .conduct name c => ({ w with conducts := (name, c) :: w.conducts }, .over .done)
  | .sleep ms => (w, .until (w.now + ms) .done)
  | .call r => w.beginErrand actor r .plain
  | .runOnce => w.beginErrand actor (.refresh none) .summary
  | .getFeeds n | .findFeeds (some n) =>
    (w, .over (.feeds (Calendar.ask w.down .findFeeds (w.sync.store.findFeeds (some n)))))
  | .findFeeds none =>
    (w, .over (.feeds (Calendar.ask w.down .findFeeds (w.sync.store.findFeeds none))))
  | .getBlocks n =>
    (w, .over (.blocks (Calendar.ask w.down .findBlocks (w.sync.store.findBlocks n))))
  | .findListings f =>
    (w, .over (.records
      (Listing.InHouse.ask w.down .findListings (w.inventory.select f.matches))))
  | .findById n =>
    (w, .over (.record (Listing.InHouse.ask w.down .findById (w.inventory.get? n))))
  | .allBlocks => (w, .over (.blocks (.ok w.sync.store.blocks)))
  | .replaceFeeds n urls => w.change .replaceFeeds (w.sync.store.replaceFeeds n urls) .feeds
  | .replaceBlocks n url ps =>
    w.change .replaceBlocks (w.sync.store.replaceBlocks n url ps) .blocks
  | .findOverlapping ns window =>
    (w, .over (.blocks
      (Calendar.ask w.down .findOverlapping (w.sync.store.findOverlapping ns window))))
  | .search q => w.beginSearch q .listings
  | .searchInHouse q =>
    let (result, asked) := w.inHouse.search q
    ({ w with geocoded := w.geocoded ++ asked }, .over (.listings result))
  | .lookup demand t reservations => w.beginLookup demand t reservations
  | .http r => w.beginHttp actor r
  | .fetchLog => ({ w with fetches := [] }, .over (.fetches w.fetches))
  | .geocodeLog => ({ w with geocoded := [] }, .over (.names w.geocoded))
  | .partnerLog => ({ w with visits := [] }, .over (.visits w.visitsByPartner))
  | .partnerNames => (w, .over (.names w.registry.names))
  | .spawn name s => (w.addTask name s, .until (w.now + 1) .done)
  | .join name =>
    match w.takeHandle? name with
    | some (w, n) => (w, .task n)
    | none => (w, .over .noTask)
  | .startRefresher => (w.orderStart, .over .done)
  | .stopRefresher =>
    if w.isLoopRunning then (w.orderStop, .loopEnd) else (w, .over .done)
  | .dropRefresher => (w.orderStop, .over .done)
  | .isRefresherRunning => (w, .over (.flag w.isLoopRunning))

/-! ## What a step needs -/

/-- The wait for a question to a store, unless the store is down for it. -/
def unlessDown (w : World) (a : Access) (wait : Wait) (s : Step) : Wait :=
  if w.down.contains a then .attention 0 s else wait

/-- What has to be waited for before a step begins. -/
def first (w : World) (s : Step) : Wait :=
  match s with
  | .insert _ | .http _ => .attention 1 s
  | .findListings _ | .searchInHouse _ | .search _ =>
    w.unlessDown .findListings (.attention 1 s) s
  | .findById _ | .lookup .. => w.unlessDown .findById (.attention 1 s) s
  | .getFeeds _ | .findFeeds _ => w.unlessDown .findFeeds (.store false s) s
  | .getBlocks _ => w.unlessDown .findBlocks (.store false s) s
  | .allBlocks => .store false s
  | .findOverlapping .. => w.unlessDown .findOverlapping (.store false s) s
  | .replaceFeeds .. => w.unlessDown .replaceFeeds (.store true s) s
  | .replaceBlocks .. => w.unlessDown .replaceBlocks (.store true s) s
  | _ => .attention 0 s

/-! ## Waiting -/

/-- An actor goes on with what it waits for, as far as it comes. A step begins, is gone through and ends:
three waits at most. -/
def attend (w : World) (actor : Actor) : Nat → Pause → World × Progress
  | 0, p => (w, .paused p)
  | n + 1, ⟨wait, asked⟩ =>
    let self : Strand := ⟨actor, none⟩
    let paused := Progress.paused ⟨wait, true⟩
    match wait with
    | .over a => (w, .over a)
    | .forever => (w, paused)
    | .call v =>
      let w := w.carryErrand actor
      match w.outcome? actor with
      | some o => (w.endErrand actor, .over (v.answer o))
      | none => (w, paused)
    | .attention acts s =>
      if w.attention < min acts 1 then (w.tire self, paused)
      else
        let (w, wait) := (w.spend acts).perform actor s
        w.attend actor n ⟨wait, false⟩
    | .store alone s =>
      let w := if asked then w else { w with store := w.store.ask self alone }
      if !w.store.inside.contains self then (w, paused)
      else if w.attention = 0 then (w.tire self, paused)
      else
        let (w, wait) := (w.spend 1).perform actor s
        (w.leaveStore (· == self)).attend actor n ⟨wait, false⟩
    | .until time a =>
      if w.attention = 0 then (w.tire self, .paused ⟨wait, asked⟩)
      else if time ≤ w.now then (w.spend 1, .over a)
      else (if asked then w else w.setAlarm time self, paused)
    | .task k =>
      if w.attention = 0 then (w.tire self, .paused ⟨wait, asked⟩)
      else
        match w.tasks[k]? with
        | some (.over a) => (w.spend 1, .over a)
        | _ => (if asked then w else { w with joiners := w.joiners ++ [(k, actor)] }, paused)
    | .loopEnd =>
      if !asked then ({ w with stoppers := w.stoppers ++ [actor] }, paused)
      else if w.stoppers.contains actor then (w, paused)
      else if w.attention = 0 then (w.tire self, paused)
      else (w.spend 1, .over .done)

/-- An actor goes on with the step that it is at. -/
def progress (w : World) (actor : Actor) : Progress → World × Progress
  | .ready s => w.attend actor 4 ⟨w.first s, false⟩
  | .paused p => w.attend actor 4 p
  | .over a => (w, .over a)

end World

end Lodging.Rehearsal
