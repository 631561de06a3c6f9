import Lodging.Sync.Step
import Mathlib.Tactic.ByContra

/-! # What a step can do

Every step of concurrent calls is one of the moves below: a call is refused, joins a queue or comes in
without a lock; it lists its feeds or fails to; it moves one feed of its batch from one stage to the
next; it goes on to its next batch, ends, or is given up. A move says what it needs and gives the state
after it in full, so what a step keeps is shown by cases on moves and never by unfolding the steps. -/

namespace Lodging.Sync.State

open Calendar

/-- How an event moves one feed of the batch of a call from stage to stage, with the store and the
locks after it. -/
inductive Advance (s : State) (c i : Nat) (p : Pass) (feed : Feed) :
    Event → Stage → Stage → Store → Locks Party → Prop
  | send : Advance s c i p feed (.send c i) .idle .fetching s.store s.locks
  | receive (d : Download) :
      Advance s c i p feed (.receive c i d) .fetching (.fetched (periodsOf d)) s.store s.locks
  | lineUp {ps : List Period} : p.guarded = true →
      Advance s c i p feed (.lineUp c i) (.fetched ps) (.queued ps) s.store
        (s.locks.lock ⟨c, some i⟩ feed.listing)
  | clear {ps : List Period} {down : Outage} : s.locks.holds ⟨c, some i⟩ = true →
      ask down .findFeeds (isRegistered s.store feed) = .ok true →
      Advance s c i p feed (.recheck c i down) (.queued ps) (.cleared ps) s.store s.locks
  | skip {ps : List Period} {down : Outage} : s.locks.holds ⟨c, some i⟩ = true →
      ask down .findFeeds (isRegistered s.store feed) ≠ .ok true →
      Advance s c i p feed (.recheck c i down) (.queued ps) (.done []) s.store
        (s.locks.release (· == ⟨c, some i⟩))
  | write {st : Stage} {ps : List Period} {down : Outage} : toWrite? p st = some ps →
      Access.replaceBlocks ∉ down →
      Advance s c i p feed (.write c i down) st
        (.done (s.store.replaceBlocks feed.listing feed.url ps).2)
        (s.store.replaceBlocks feed.listing feed.url ps).1 (s.locks.release (· == ⟨c, some i⟩))
  | fail {st : Stage} {ps : List Period} {down : Outage} : toWrite? p st = some ps →
      Access.replaceBlocks ∈ down →
      Advance s c i p feed (.write c i down) st (.done []) s.store
        (s.locks.release (· == ⟨c, some i⟩))

inductive Move (size : Nat) (s : State) : Event → State → Prop
  | refuse {r : Request} {e : Error} : r.check = .error e →
      Move size s (.submit r) ⟨s.store, s.locks, s.calls ++ [⟨r, .finished (.failed e)⟩]⟩
  | join {r : Request} {listing : Int} : r.check = .ok () → r.listing? = some listing →
      Move size s (.submit r)
        ⟨s.store, s.locks.lock ⟨s.calls.length, none⟩ listing, s.calls ++ [⟨r, .waiting⟩]⟩
  | enter {r : Request} : r.check = .ok () → r.listing? = none →
      Move size s (.submit r) ⟨s.store, s.locks, s.calls ++ [⟨r, .waiting⟩]⟩
  | list {c : Nat} {r : Request} {down : Outage} {store : Store} {feeds : List Feed} :
      s.calls[c]? = some ⟨r, .waiting⟩ → s.mayList c r = true →
      listFeeds s.store down r = .ok (store, feeds) →
      Move size s (.list c down)
        ⟨store, s.locks, s.calls.set c ⟨r, .passing feeds (.start r.guarded size feeds)⟩⟩
  | listFail {c : Nat} {r : Request} {down : Outage} {e : Error} :
      s.calls[c]? = some ⟨r, .waiting⟩ → s.mayList c r = true →
      listFeeds s.store down r = .error e →
      Move size s (.list c down)
        ⟨s.store, s.locks.release (·.call == c), s.calls.set c ⟨r, .finished (.failed e)⟩⟩
  | advance {e : Event} {c i : Nat} {r : Request} {feeds : List Feed} {p : Pass} {feed : Feed}
      {st st' : Stage} {store : Store} {locks : Locks Party} :
      s.calls[c]? = some ⟨r, .passing feeds p⟩ → p.batch[i]? = some ⟨feed, st⟩ →
      Advance s c i p feed e st st' store locks →
      Move size s e ⟨store, locks, s.calls.set c ⟨r, .passing feeds (p.setStage i st')⟩⟩
  | next {c : Nat} {r : Request} {feeds : List Feed} {p : Pass} {written : List (List Block)} :
      s.calls[c]? = some ⟨r, .passing feeds p⟩ → p.written? = some written → p.rest ≠ [] →
      Move size s (.turn c)
        ⟨s.store, s.locks, s.calls.set c ⟨r, .passing feeds (p.next written)⟩⟩
  | finish {c : Nat} {r : Request} {feeds : List Feed} {p : Pass} {written : List (List Block)} :
      s.calls[c]? = some ⟨r, .passing feeds p⟩ → p.written? = some written → p.rest = [] →
      Move size s (.turn c)
        ⟨s.store, s.locks.release (·.call == c),
          s.calls.set c ⟨r, .finished (Call.outcomeOf r feeds (p.results ++ written))⟩⟩
  | drop {c : Nat} {k : Call} : s.calls[c]? = some k → k.isOver = false →
      Move size s (.drop c)
        ⟨s.store, s.locks.release (·.call == c), s.calls.set c ⟨k.request, .dropped⟩⟩

/-! ## Every step is a move -/

theorem modify_eq_set {α : Type} {l : List α} {i : Nat} {a : α} (h : l[i]? = some a) (f : α → α) :
    l.modify i f = l.set i (f a) := by
  obtain ⟨hi, rfl⟩ := List.getElem?_eq_some_iff.mp h
  refine List.ext_getElem? fun j => ?_
  by_cases hj : i = j
  · subst hj
    simp [hi]
  · simp [hj]

theorem slot?_eq_some {s : State} {c i : Nat} {p : Pass} {slot : Slot}
    (h : s.slot? c i = some (p, slot)) :
    ∃ r feeds, s.calls[c]? = some ⟨r, .passing feeds p⟩ ∧ p.batch[i]? = some slot := by
  unfold slot? at h
  split at h
  · next r feeds q hc =>
    obtain ⟨sl, hs, he⟩ := Option.map_eq_some_iff.mp h
    simp only [Prod.mk.injEq] at he
    obtain ⟨rfl, rfl⟩ := he
    exact ⟨r, feeds, hc, hs⟩
  · cases h

theorem setPhase_eq {s : State} {c : Nat} {k : Call} (h : s.calls[c]? = some k) (phase : Phase) :
    s.setPhase c phase = ⟨s.store, s.locks, s.calls.set c ⟨k.request, phase⟩⟩ := by
  unfold setPhase
  rw [modify_eq_set h]

theorem setStage_eq {s : State} {c : Nat} {r : Request} {feeds : List Feed} {p : Pass}
    (h : s.calls[c]? = some ⟨r, .passing feeds p⟩) (i : Nat) (st : Stage) :
    s.setStage c i st =
      ⟨s.store, s.locks, s.calls.set c ⟨r, .passing feeds (p.setStage i st)⟩⟩ := by
  unfold setStage
  rw [modify_eq_set h]

theorem ask_eq_ok_iff {α : Type} {down : Outage} {a : Access} {x y : α} :
    ask down a x = .ok y ↔ a ∉ down ∧ x = y := by
  unfold ask
  by_cases h : a ∈ down <;> simp [h]

theorem ask_of_mem {α : Type} {down : Outage} {a : Access} (h : a ∈ down) (x : α) :
    ask down a x = .error (.storage a.failure) := by
  simp [ask, h]

theorem submit_move (size : Nat) (s : State) (r : Request) :
    Move size s (.submit r) (s.submit r) := by
  unfold submit
  split
  · next e he => exact .refuse he
  · next he =>
    cases hl : r.listing? with
    | some listing => exact .join he hl
    | none => exact .enter he hl

theorem list?_move {size : Nat} {s s' : State} {c : Nat} {down : Outage}
    (h : s.list? size c down = some s') : Move size s (.list c down) s' := by
  unfold list? at h
  split at h
  · next r hc =>
    split at h
    · next hm =>
      have hs := Option.some.inj h
      split at hs
      · next store feeds hl =>
        rw [← hs, setPhase_eq (by exact hc)]
        exact .list hc hm hl
      · next e hl =>
        rw [← hs, finish, setPhase_eq hc]
        exact .listFail hc hm hl
    · cases h
  · cases h

theorem send?_move {size : Nat} {s s' : State} {c i : Nat} (h : s.send? c i = some s') :
    Move size s (.send c i) s' := by
  unfold send? at h
  split at h
  · next p feed hs =>
    obtain ⟨r, feeds, hc, hb⟩ := slot?_eq_some hs
    rw [← Option.some.inj h, setStage_eq hc]
    exact .advance hc hb .send
  · cases h

theorem receive?_move {size : Nat} {s s' : State} {c i : Nat} {d : Download}
    (h : s.receive? c i d = some s') : Move size s (.receive c i d) s' := by
  unfold receive? at h
  split at h
  · next p feed hs =>
    obtain ⟨r, feeds, hc, hb⟩ := slot?_eq_some hs
    rw [← Option.some.inj h, setStage_eq hc]
    exact .advance hc hb (.receive d)
  · cases h

theorem lineUp?_move {size : Nat} {s s' : State} {c i : Nat} (h : s.lineUp? c i = some s') :
    Move size s (.lineUp c i) s' := by
  unfold lineUp? at h
  split at h
  · next p feed ps hs =>
    obtain ⟨r, feeds, hc, hb⟩ := slot?_eq_some hs
    split at h
    · next hg =>
      rw [← Option.some.inj h, setStage_eq hc]
      exact .advance hc hb (.lineUp hg)
    · cases h
  · cases h

theorem recheck?_move {size : Nat} {s s' : State} {c i : Nat} {down : Outage}
    (h : s.recheck? c i down = some s') : Move size s (.recheck c i down) s' := by
  unfold recheck? at h
  split at h
  · next p feed ps hs =>
    obtain ⟨r, feeds, hc, hb⟩ := slot?_eq_some hs
    split at h
    · next hh =>
      have hs := Option.some.inj h
      split at hs
      · next hok =>
        rw [← hs, setStage_eq hc]
        exact .advance hc hb (.clear hh hok)
      · next hno =>
        rw [← hs, releaseSlot, setStage_eq hc]
        exact .advance hc hb (.skip hh hno)
    · cases h
  · cases h

theorem writes?_eq_some {s : State} {c i : Nat} {feed : Feed} {ps : List Period}
    (h : s.writes? c i = some (feed, ps)) :
    ∃ p st, s.slot? c i = some (p, ⟨feed, st⟩) ∧ toWrite? p st = some ps := by
  obtain ⟨⟨p, slot⟩, hs, h⟩ := Option.bind_eq_some_iff.mp h
  obtain ⟨ps', hw, he⟩ := Option.map_eq_some_iff.mp h
  cases he
  exact ⟨p, slot.stage, hs, hw⟩

theorem write?_move {size : Nat} {s s' : State} {c i : Nat} {down : Outage}
    (h : s.write? c i down = some s') : Move size s (.write c i down) s' := by
  obtain ⟨⟨feed, ps⟩, hw, hs'⟩ := Option.map_eq_some_iff.mp h
  obtain ⟨p, st, hs, hps⟩ := writes?_eq_some hw
  obtain ⟨r, feeds, hc, hb⟩ := slot?_eq_some hs
  dsimp only at hs'
  split at hs'
  · next store blocks hok =>
    obtain ⟨hd, he⟩ := ask_eq_ok_iff.mp hok
    rw [← hs', releaseSlot, setStage_eq (by exact hc)]
    have hm : Move size s (.write c i down) _ := .advance hc hb (.write hps hd)
    rwa [he] at hm
  · next e herr =>
    have hd : Access.replaceBlocks ∈ down := by
      by_contra hd
      rw [ask_eq_ok_iff.mpr ⟨hd, rfl⟩] at herr
      cases herr
    rw [← hs', releaseSlot, setStage_eq hc]
    exact .advance hc hb (.fail hps hd)

theorem turn?_move {size : Nat} {s s' : State} {c : Nat} (h : s.turn? c = some s') :
    Move size s (.turn c) s' := by
  unfold turn? at h
  split at h
  · next r feeds p hc =>
    obtain ⟨written, hw, hs⟩ := Option.map_eq_some_iff.mp h
    split at hs
    · next hr =>
      rw [← hs, State.finish, setPhase_eq hc]
      exact .finish hc hw (by simpa using hr)
    · next hr =>
      rw [← hs, setPhase_eq hc]
      exact .next hc hw (by simpa using hr)
  · cases h

theorem drop?_move {size : Nat} {s s' : State} {c : Nat} (h : s.drop? c = some s') :
    Move size s (.drop c) s' := by
  unfold drop? at h
  split at h
  · next k hc =>
    split at h
    · cases h
    · next ho =>
      rw [← Option.some.inj h, setPhase_eq hc]
      exact .drop hc (by simpa using ho)
  · cases h

theorem step?_move {size : Nat} {s s' : State} {e : Event} (h : s.step? size e = some s') :
    Move size s e s' := by
  cases e with
  | submit r => exact Option.some.inj h ▸ submit_move size s r
  | list c down => exact list?_move h
  | send c i => exact send?_move h
  | receive c i d => exact receive?_move h
  | lineUp c i => exact lineUp?_move h
  | recheck c i down => exact recheck?_move h
  | write c i down => exact write?_move h
  | turn c => exact turn?_move h
  | drop c => exact drop?_move h

/-! ## Whose step it is -/

/-- The call whose step an event is, if it was made before. -/
def caller? : Event → Option Nat
  | .submit _ => none
  | .list c _ => some c
  | .send c _ => some c
  | .receive c _ _ => some c
  | .lineUp c _ => some c
  | .recheck c _ _ => some c
  | .write c _ _ => some c
  | .turn c => some c
  | .drop c => some c

theorem Advance.caller? {s : State} {c i : Nat} {p : Pass} {feed : Feed} {e : Event}
    {st st' : Stage} {store : Store} {locks : Locks Party}
    (h : s.Advance c i p feed e st st' store locks) : caller? e = some c := by
  cases h <;> rfl

/-- A step changes no call but the one whose step it is. -/
theorem Move.calls_of_ne {size : Nat} {s s' : State} {e : Event} (h : Move size s e s') {c : Nat}
    {k : Call} (hk : s.calls[c]? = some k) (hc : caller? e ≠ some c) : s'.calls[c]? = some k := by
  have hlt := (List.getElem?_eq_some_iff.mp hk).1
  have hset : ∀ {d : Nat} (k' : Call), d ≠ c → (s.calls.set d k')[c]? = some k := fun k' hd => by
    rw [List.getElem?_set_ne hd, hk]
  cases h with
  | refuse _ => exact (List.getElem?_append_left hlt).trans hk
  | join _ _ => exact (List.getElem?_append_left hlt).trans hk
  | enter _ _ => exact (List.getElem?_append_left hlt).trans hk
  | advance _ _ ha => exact hset _ fun h => hc (h ▸ ha.caller?)
  | _ => exact hset _ fun h => hc (congrArg some h)

/-- A call that makes a step is not over. -/
theorem Move.not_over {size : Nat} {s s' : State} {e : Event} (h : Move size s e s') {c : Nat}
    (hc : caller? e = some c) {k : Call} (hk : s.calls[c]? = some k) : k.isOver = false := by
  have hsame : ∀ {d : Nat} {k' : Call}, s.calls[d]? = some k' → some d = some c → k = k' :=
    fun hd hdc => by
      rw [Option.some.inj hdc, hk] at hd
      exact Option.some.inj hd
  cases h with
  | refuse _ => cases hc
  | join _ _ => cases hc
  | enter _ _ => cases hc
  | advance hd _ ha => rw [hsame hd (ha.caller?.symm.trans hc)]; rfl
  | drop hd ho => rw [hsame hd hc, ho]
  | list hd _ _ => rw [hsame hd hc]; rfl
  | listFail hd _ _ => rw [hsame hd hc]; rfl
  | next hd _ _ => rw [hsame hd hc]; rfl
  | finish hd _ _ => rw [hsame hd hc]; rfl

/-- A call that is over stays as it is. -/
theorem Move.calls_of_over {size : Nat} {s s' : State} {e : Event} (h : Move size s e s') {c : Nat}
    {k : Call} (hk : s.calls[c]? = some k) (ho : k.isOver = true) : s'.calls[c]? = some k :=
  h.calls_of_ne hk fun hc => by
    rw [h.not_over hc hk] at ho
    cases ho

/-- What every step carries over from the events before it to those with it holds of every run. -/
theorem run?_trace_induction {size : Nat} {motive : List Event → State → Prop}
    (step : ∀ {es : List Event} {s s' : State} {e : Event}, motive es s →
      s.step? size e = some s' → motive (es ++ [e]) s') :
    ∀ {fs : List Event} (es : List Event) {s s' : State}, motive es s →
      s.run? size fs = some s' → motive (es ++ fs) s'
  | [], es, _, _, hs, h => by
    rw [List.append_nil]
    exact Option.some.inj h ▸ hs
  | e :: fs, es, _, _, hs, h => by
    obtain ⟨s₁, h₁, h₂⟩ := Option.bind_eq_some_iff.mp h
    rw [List.append_cons]
    exact run?_trace_induction step (es ++ [e]) (step hs h₁) h₂

/-- What lasts through every step lasts through every run. -/
theorem run?_induction {size : Nat} {motive : State → Prop}
    (step : ∀ {s s' : State} {e : Event}, motive s → s.step? size e = some s' → motive s')
    {es : List Event} {s s' : State} (hs : motive s) (h : s.run? size es = some s') : motive s' :=
  run?_trace_induction (motive := fun _ s => motive s) step [] hs h

end Lodging.Sync.State
