import Lodging.Proofs.Sync.Locks
import Lodging.Proofs.Sync.Moves

/-! # Who holds which lock

A call on one listing has a ticket for its lock from its arrival to its end, and a feed of a guarded
pass has one from the end of its download until it is written or skipped; nobody else has any
(`Orderly`). Who works on the feeds of a listing holds its lock: a call on one listing as soon as it has
listed its feeds, a feed of a guarded pass as soon as it was looked up again. -/

namespace Lodging.Sync

open Calendar

/-! ## Places in the queues -/

def Stage.wantsLock : Stage → Bool
  | queued _ => true
  | cleared _ => true
  | _ => false

def Stage.isCleared : Stage → Bool
  | cleared _ => true
  | _ => false

def Pass.wants? (p : Pass) (i : Nat) : Option Int :=
  p.batch[i]?.bind fun slot => if slot.stage.wantsLock then some slot.feed.listing else none

/-- The listing whose lock the call itself, or a feed of its batch, has asked for. -/
def Call.wants? (k : Call) : Option Nat → Option Int
  | none =>
    match k.phase with
    | .waiting => k.request.listing?
    | .passing _ _ => k.request.listing?
    | _ => none
  | some i =>
    match k.phase with
    | .passing _ p => p.wants? i
    | _ => none

/-- Whether the call itself, or a feed of its batch, works on feeds that may not change meanwhile. -/
def Call.isInside (k : Call) : Option Nat → Bool
  | none =>
    match k.phase with
    | .passing _ _ => k.request.listing?.isSome
    | _ => false
  | some i =>
    match k.phase with
    | .passing _ p => p.batch[i]?.any (·.stage.isCleared)
    | _ => false

/-- The feeds of a pass are those of earlier batches, of the batch at work and of later ones, and no
feed asks for a lock unless the pass is guarded. -/
structure Pass.Regular (guarded : Bool) (feeds : List Feed) (p : Pass) : Prop where
  guarded_eq : p.guarded = guarded
  size_pos : 0 < p.size
  length_le : p.results.length ≤ feeds.length
  drop_eq : feeds.drop p.results.length = p.batch.map (·.feed) ++ p.rest
  unguarded : guarded = false → ∀ slot ∈ p.batch, slot.stage.wantsLock = false

structure Call.Regular (k : Call) : Prop where
  admitted : k.isOver = false → k.request.check = .ok ()
  pass : ∀ feeds p, k.phase = .passing feeds p → p.Regular k.request.guarded feeds

namespace Pass

theorem wants?_eq_none {p : Pass} (h : ∀ slot ∈ p.batch, slot.stage.wantsLock = false) (i : Nat) :
    p.wants? i = none := by
  unfold wants?
  cases hs : p.batch[i]? with
  | none => rfl
  | some slot => simp [h slot (List.mem_of_getElem? hs)]

/-- Nobody in a batch without tickets works under a lock. -/
theorem isCleared_eq_false {p : Pass} (h : ∀ slot ∈ p.batch, slot.stage.wantsLock = false)
    (i : Nat) : p.batch[i]?.any (·.stage.isCleared) = false := by
  cases hs : p.batch[i]? with
  | none => rfl
  | some slot =>
    have := h slot (List.mem_of_getElem? hs)
    unfold Stage.wantsLock at this
    unfold Option.any Stage.isCleared
    split at this <;> simp_all

theorem wants?_setStage {p : Pass} {i : Nat} {feed : Feed} {st : Stage}
    (h : p.batch[i]? = some ⟨feed, st⟩) (st' : Stage) (j : Nat) :
    (p.setStage i st').wants? j =
      if j = i then if st'.wantsLock then some feed.listing else none else p.wants? j := by
  unfold wants? setStage
  by_cases hj : j = i
  · subst hj
    simp [h]
  · simp [hj, Ne.symm hj]

theorem getElem?_setStage {p : Pass} {i : Nat} {feed : Feed} {st : Stage}
    (h : p.batch[i]? = some ⟨feed, st⟩) (st' : Stage) (j : Nat) :
    (p.setStage i st').batch[j]? = if j = i then some ⟨feed, st'⟩ else p.batch[j]? := by
  unfold setStage
  by_cases hj : j = i
  · subst hj
    simp [h]
  · simp [hj, Ne.symm hj]

/-- A slot after a change of stage is the changed one or was there before. -/
theorem mem_setStage {p : Pass} {i : Nat} {feed : Feed} {st st' : Stage}
    (h : p.batch[i]? = some ⟨feed, st⟩) {slot : Slot} (hs : slot ∈ (p.setStage i st').batch) :
    slot = ⟨feed, st'⟩ ∨ slot ∈ p.batch := by
  obtain ⟨j, hj⟩ := List.mem_iff_getElem?.mp hs
  rw [getElem?_setStage h] at hj
  split at hj
  · exact .inl (Option.some.inj hj).symm
  · exact .inr (List.mem_of_getElem? hj)

theorem setStage_feeds (p : Pass) (i : Nat) (st : Stage) :
    (p.setStage i st).batch.map (·.feed) = p.batch.map (·.feed) := by
  unfold setStage
  refine List.ext_getElem? fun j => ?_
  by_cases hj : i = j
  · subst hj
    simp [Function.comp_def]
  · simp [hj]

theorem load_batch_feeds (guarded : Bool) (size : Nat) (results : List (List Block))
    (feeds : List Feed) :
    (load guarded size results feeds).batch.map (·.feed) = feeds.take size := by
  simp [load, Function.comp_def]

theorem load_idle {guarded : Bool} {size : Nat} {results : List (List Block)}
    {feeds : List Feed} {slot : Slot} (h : slot ∈ (load guarded size results feeds).batch) :
    slot.stage = .idle := by
  obtain ⟨f, -, rfl⟩ := List.mem_map.mp h
  rfl

theorem stages_of_mapM {slots : List Slot} {written : List (List Block)}
    (h : slots.mapM (·.stage.blocks?) = some written) :
    slots.map (·.stage) = written.map .done := by
  induction slots generalizing written with
  | nil => simp_all
  | cons slot slots ih =>
    rw [List.mapM_cons] at h
    obtain ⟨bs, hb, h⟩ := Option.bind_eq_some_iff.mp h
    obtain ⟨rest, hr, h⟩ := Option.bind_eq_some_iff.mp h
    rw [← Option.some.inj h, List.map_cons, List.map_cons, ih hr]
    congr 1
    unfold Stage.blocks? at hb
    split at hb
    · next he => rw [he, Option.some.inj hb]
    · cases hb

/-- All feeds of the batch are done when there are results for it. -/
theorem written?_eq_some {p : Pass} {written : List (List Block)} (h : p.written? = some written) :
    p.batch.map (·.stage) = written.map .done :=
  stages_of_mapM h

theorem done_of_written? {p : Pass} {written : List (List Block)} (h : p.written? = some written)
    {slot : Slot} (hs : slot ∈ p.batch) : ∃ bs ∈ written, slot.stage = .done bs := by
  have hm : slot.stage ∈ written.map Stage.done :=
    written?_eq_some h ▸ List.mem_map_of_mem hs
  obtain ⟨bs, hbs, he⟩ := List.mem_map.mp hm
  exact ⟨bs, hbs, he.symm⟩

theorem Regular.start (guarded : Bool) (size : Nat) (feeds : List Feed) :
    (Pass.start guarded size feeds).Regular guarded feeds where
  guarded_eq := rfl
  size_pos := by simp only [Pass.start, load]; omega
  length_le := by simp [Pass.start, load]
  drop_eq := by rw [Pass.start, load_batch_feeds]; simp [load]
  unguarded := fun _ slot hs => by rw [load_idle hs]; rfl

theorem Regular.setStage {guarded : Bool} {feeds : List Feed} {p : Pass}
    (hp : p.Regular guarded feeds) {i : Nat} {feed : Feed} {st st' : Stage}
    (h : p.batch[i]? = some ⟨feed, st⟩) (hst : guarded = false → st'.wantsLock = false) :
    (p.setStage i st').Regular guarded feeds where
  guarded_eq := hp.guarded_eq
  size_pos := hp.size_pos
  length_le := hp.length_le
  drop_eq := by rw [setStage_feeds]; exact hp.drop_eq
  unguarded := by
    intro hg slot hs
    rcases mem_setStage h hs with rfl | hs
    · exact hst hg
    · exact hp.unguarded hg slot hs

theorem Regular.next {guarded : Bool} {feeds : List Feed} {p : Pass}
    (hp : p.Regular guarded feeds) {written : List (List Block)} (h : p.written? = some written) :
    (p.next written).Regular guarded feeds := by
  have hlen : written.length = p.batch.length := by
    simpa using (congrArg List.length (written?_eq_some h)).symm
  have hdrop : feeds.drop (p.results ++ written).length = p.rest := by
    rw [List.length_append, ← List.drop_drop, hp.drop_eq, hlen]
    exact List.drop_left' (by simp)
  have hle : (p.results ++ written).length ≤ feeds.length := by
    have := congrArg List.length hp.drop_eq
    simp only [List.length_drop, List.length_append, List.length_map] at this
    have := hp.length_le
    rw [List.length_append]
    omega
  exact {
    guarded_eq := hp.guarded_eq
    size_pos := hp.size_pos
    length_le := hle
    drop_eq := by
      rw [Pass.next, load_batch_feeds]
      show feeds.drop (p.results ++ written).length = _
      rw [hdrop]
      simp [load]
    unguarded := fun _ slot hs => by rw [load_idle hs]; rfl }

end Pass

/-! ## Orderly states -/

namespace State

def wants? (s : State) (o : Party) : Option Int := s.calls[o.call]?.bind (·.wants? o.slot)

def isInside (s : State) (o : Party) : Bool := s.calls[o.call]?.any (·.isInside o.slot)

/-- Every call has the property, which may depend on where it stands. -/
def EveryCall (Q : Nat → Call → Prop) (s : State) : Prop :=
  ∀ (c : Nat) (k : Call), s.calls[c]? = some k → Q c k

/-- Tickets are with those who want them, and whoever works under a lock holds it. -/
structure Orderly (s : State) : Prop where
  locks : s.locks.Consistent
  tickets : ∀ o, s.locks.asked? o = s.wants? o
  inside : ∀ o, s.isInside o = true → s.locks.holds o = true
  regular : s.EveryCall fun _ k => k.Regular

theorem orderly_of_calls_nil {s : State} (hl : s.locks = .empty) (hc : s.calls = []) :
    s.Orderly where
  locks := hl ▸ Locks.consistent_empty
  tickets := by simp [hl, hc, wants?, Locks.asked?, Locks.ticket?, Locks.empty]
  inside := by simp [hc, isInside]
  regular := fun c k h => by simp [hc] at h

/-! ### One call changes -/

theorem calls_set {s : State} {c : Nat} {k₀ : Call} (hc : s.calls[c]? = some k₀) (k : Call)
    (c' : Nat) : (s.calls.set c k)[c']? = if c' = c then some k else s.calls[c']? := by
  obtain ⟨hlt, -⟩ := List.getElem?_eq_some_iff.mp hc
  by_cases h : c' = c
  · simp [h, hlt]
  · simp [h, Ne.symm h]

theorem calls_set_self {s : State} {c : Nat} {k₀ : Call} (hc : s.calls[c]? = some k₀) (k : Call) :
    (s.calls.set c k)[c]? = some k := by
  rw [calls_set hc, if_pos rfl]

theorem calls_append (s : State) (k : Call) (c' : Nat) :
    (s.calls ++ [k])[c']? = if c' = s.calls.length then some k else s.calls[c']? := by
  by_cases h : c' = s.calls.length
  · simp [h]
  · rw [if_neg h, List.getElem?_append]
    split
    · rfl
    · next hge =>
      rw [List.getElem?_eq_none (l := s.calls) (by omega)]
      exact List.getElem?_eq_none (by rw [List.length_singleton]; omega)

theorem EveryCall.append {s : State} {Q Q' : Nat → Call → Prop} (hs : s.EveryCall Q)
    {store : Store} {locks : Locks Party} {k : Call} (hold : ∀ c k', Q c k' → Q' c k')
    (hk : Q' s.calls.length k) : EveryCall Q' ⟨store, locks, s.calls ++ [k]⟩ := by
  intro c k' hc
  rw [calls_append] at hc
  split at hc
  · next h =>
    rw [h, ← Option.some.inj hc]
    exact hk
  · exact hold c k' (hs c k' hc)

theorem EveryCall.set {s : State} {Q Q' : Nat → Call → Prop} (hs : s.EveryCall Q) {store : Store}
    {locks : Locks Party} {c : Nat} {k₀ k : Call} (hc : s.calls[c]? = some k₀)
    (hother : ∀ c' k', c' ≠ c → s.calls[c']? = some k' → Q c' k' → Q' c' k') (hk : Q' c k) :
    EveryCall Q' ⟨store, locks, s.calls.set c k⟩ := by
  intro c' k' hc'
  rw [calls_set hc] at hc'
  split at hc'
  · next h =>
    rw [h, ← Option.some.inj hc']
    exact hk
  · next h => exact hother c' k' h hc' (hs c' k' hc')

/-- What a step makes of a call: it leaves it as it is, lists its feeds, moves one of them on, goes on
to the next batch, or ends the call. -/
inductive Becomes (size : Nat) (s : State) (e : Event) (c : Nat) : Call → Call → Prop
  | same {k : Call} : Becomes size s e c k k
  | list {r : Request} {down : Outage} {store : Store} {feeds : List Feed} :
      listFeeds s.store down r = .ok (store, feeds) →
      Becomes size s e c ⟨r, .waiting⟩ ⟨r, .passing feeds (.start r.guarded size feeds)⟩
  | advance {i : Nat} {r : Request} {feeds : List Feed} {p : Pass} {feed : Feed} {st st' : Stage}
      {store : Store} {locks : Locks Party} : p.batch[i]? = some ⟨feed, st⟩ →
      s.Advance c i p feed e st st' store locks →
      Becomes size s e c ⟨r, .passing feeds p⟩ ⟨r, .passing feeds (p.setStage i st')⟩
  | next {r : Request} {feeds : List Feed} {p : Pass} {written : List (List Block)} :
      p.written? = some written →
      Becomes size s e c ⟨r, .passing feeds p⟩ ⟨r, .passing feeds (p.next written)⟩
  | finish {k k' : Call} : k'.isOver = true → k'.request = k.request → Becomes size s e c k k'

theorem Move.becomes {size : Nat} {s s' : State} {e : Event} {c : Nat} (h : Move size s e s') {k : Call} (hk : s.calls[c]? = some k) :
    ∃ k', s'.calls[c]? = some k' ∧ Becomes size s e c k k' := by
  have hlt := (List.getElem?_eq_some_iff.mp hk).1
  have hset : ∀ {d : Nat} {k₀ k₁ : Call}, s.calls[d]? = some k₀ → Becomes size s e d k₀ k₁ →
      ∃ k', (s.calls.set d k₁)[c]? = some k' ∧ Becomes size s e c k k' := by
    intro d k₀ k₁ hd hb
    rw [calls_set hd]
    split
    · next hcd =>
      subst hcd
      rw [hk] at hd
      exact ⟨k₁, rfl, Option.some.inj hd ▸ hb⟩
    · exact ⟨k, hk, .same⟩
  cases h with
  | refuse _ => exact ⟨k, (List.getElem?_append_left hlt).trans hk, .same⟩
  | join _ _ => exact ⟨k, (List.getElem?_append_left hlt).trans hk, .same⟩
  | enter _ _ => exact ⟨k, (List.getElem?_append_left hlt).trans hk, .same⟩
  | list hd _ hlist => exact hset hd (.list hlist)
  | listFail hd _ _ => exact hset hd (.finish rfl rfl)
  | advance hd hb ha => exact hset hd (.advance hb ha)
  | next hd hw _ => exact hset hd (.next hw)
  | finish hd _ _ => exact hset hd (.finish rfl rfl)
  | drop hd _ => exact hset hd (.finish rfl rfl)

/-- Requests stay. -/
theorem Becomes.request {size : Nat} {s : State} {e : Event} {c : Nat} {k k' : Call} (h : Becomes size s e c k k') :
    k'.request = k.request := by
  cases h with
  | finish _ hr => exact hr
  | _ => rfl

/-- What is to be shown when a call becomes another one. -/
theorem Orderly.set {s : State} (hs : s.Orderly) {c : Nat} {k₀ k : Call} {store : Store}
    {locks : Locks Party} (hc : s.calls[c]? = some k₀) (hl : locks.Consistent)
    (ht : ∀ o, locks.asked? o = if o.call = c then k.wants? o.slot else s.locks.asked? o)
    (hin : ∀ o, o.call = c → k.isInside o.slot = true → locks.holds o = true)
    (hout : ∀ o, o.call ≠ c → s.locks.holds o = true → locks.holds o = true)
    (hk : k.Regular) : Orderly ⟨store, locks, s.calls.set c k⟩ where
  locks := hl
  tickets := by
    intro o
    simp only [ht, wants?, calls_set hc]
    split
    · rfl
    · rw [hs.tickets, wants?]
  inside := by
    intro o ho
    simp only [isInside, calls_set hc] at ho
    split at ho
    · next h => exact hin o h ho
    · next h => exact hout o h (hs.inside o ho)
  regular := EveryCall.set hs.regular hc (fun _ _ _ _ h => h) hk

/-- What is to be shown when a call comes in. -/
theorem Orderly.append {s : State} (hs : s.Orderly) {k : Call} {store : Store}
    {locks : Locks Party} (hl : locks.Consistent)
    (ht : ∀ o, locks.asked? o =
      if o.call = s.calls.length then k.wants? o.slot else s.locks.asked? o)
    (hin : ∀ j, k.isInside j = false)
    (hout : ∀ o, s.locks.holds o = true → locks.holds o = true)
    (hk : k.Regular) : Orderly ⟨store, locks, s.calls ++ [k]⟩ where
  locks := hl
  tickets := by
    intro o
    simp only [ht, wants?, calls_append]
    split
    · rfl
    · rw [hs.tickets, wants?]
  inside := by
    intro o ho
    simp only [isInside, calls_append] at ho
    split at ho
    · simp [hin] at ho
    · exact hout o (hs.inside o ho)
  regular := EveryCall.append hs.regular (fun _ _ h => h) hk

theorem Orderly.asked?_eq {s : State} (hs : s.Orderly) {c : Nat} {k : Call}
    (hc : s.calls[c]? = some k) (j : Option Nat) : s.locks.asked? ⟨c, j⟩ = k.wants? j := by
  rw [hs.tickets, wants?, hc, Option.bind_some]

theorem Orderly.asked?_new {s : State} (hs : s.Orderly) (j : Option Nat) :
    s.locks.asked? ⟨s.calls.length, j⟩ = none := by
  rw [hs.tickets, wants?, List.getElem?_eq_none (Nat.le_refl _), Option.bind_none]

/-! ### The moves -/

theorem Orderly.over {s : State} (hs : s.Orderly) {c : Nat} {k₀ k : Call} {store : Store}
    (hc : s.calls[c]? = some k₀) (hk : k.isOver = true) :
    Orderly ⟨store, s.locks.release (·.call == c), s.calls.set c k⟩ := by
  have hphase : (∀ j, k.wants? j = none) ∧ (∀ j, k.isInside j = false) ∧ k.Regular := by
    obtain ⟨r, phase⟩ := k
    cases phase with
    | waiting => cases hk
    | passing feeds p => cases hk
    | finished o =>
      exact ⟨fun j => by cases j <;> rfl, fun j => by cases j <;> rfl,
        fun h => (by simp [Call.isOver] at h), fun _ _ h => by cases h⟩
    | dropped =>
      exact ⟨fun j => by cases j <;> rfl, fun j => by cases j <;> rfl,
        fun h => (by simp [Call.isOver] at h), fun _ _ h => by cases h⟩
  obtain ⟨hw, hi, hr⟩ := hphase
  refine hs.set hc (hs.locks.release _) ?_ ?_ ?_ hr
  · intro o
    rw [Locks.asked?_release]
    by_cases h : o.call = c <;> simp [h, hw]
  · intro o _ h
    simp [hi] at h
  · intro o h hh
    exact Locks.holds_release hh (by simpa using h)

section

variable {s : State} {e : Event} {c i : Nat} {r : Request} {feeds : List Feed} {p : Pass}
  {feed : Feed} {st st' : Stage} {store : Store} {locks : Locks Party}

/-- After a feed is moved on it may want a lock or not; all others in the call want what they wanted. -/
theorem Orderly.wants?_setStage (hs : s.Orderly) (hc : s.calls[c]? = some ⟨r, .passing feeds p⟩)
    (hb : p.batch[i]? = some ⟨feed, st⟩) {o : Party} (ho : o.call = c) :
    Call.wants? ⟨r, .passing feeds (p.setStage i st')⟩ o.slot =
      if o = ⟨c, some i⟩ then if st'.wantsLock then some feed.listing else none
      else s.locks.asked? o := by
  obtain ⟨c', j⟩ := o
  subst ho
  rw [hs.asked?_eq hc]
  cases j with
  | none => simp [Call.wants?]
  | some j =>
    simp only [Call.wants?, Pass.wants?_setStage hb, Party.mk.injEq, true_and, Option.some.injEq]

theorem Orderly.asked?_slot (hs : s.Orderly) (hc : s.calls[c]? = some ⟨r, .passing feeds p⟩)
    (hb : p.batch[i]? = some ⟨feed, st⟩) :
    s.locks.asked? ⟨c, some i⟩ = if st.wantsLock then some feed.listing else none := by
  rw [hs.asked?_eq hc]
  simp [Call.wants?, Pass.wants?, hb]

/-- After a feed is moved on it is inside if it is cleared; all others in the call hold what they held. -/
theorem Orderly.isInside_setStage (hs : s.Orderly)
    (hc : s.calls[c]? = some ⟨r, .passing feeds p⟩) (hb : p.batch[i]? = some ⟨feed, st⟩) {o : Party}
    (ho : o.call = c)
    (h : Call.isInside ⟨r, .passing feeds (p.setStage i st')⟩ o.slot = true) :
    o = ⟨c, some i⟩ ∧ st'.isCleared = true ∨ o ≠ ⟨c, some i⟩ ∧ s.locks.holds o = true := by
  obtain ⟨c', j⟩ := o
  subst ho
  cases j with
  | none =>
    exact .inr ⟨by simp, hs.inside _ (by simpa [isInside, hc, Call.isInside] using h)⟩
  | some j =>
    simp only [Call.isInside, Pass.getElem?_setStage hb] at h
    by_cases hj : j = i
    · exact .inl ⟨by rw [hj], by simpa [hj] using h⟩
    · refine .inr ⟨by simpa using hj, hs.inside _ ?_⟩
      simpa [isInside, hc, Call.isInside, hj] using h

theorem Orderly.regular_setStage (hs : s.Orderly) (hc : s.calls[c]? = some ⟨r, .passing feeds p⟩)
    (hb : p.batch[i]? = some ⟨feed, st⟩) (hst : r.guarded = false → st'.wantsLock = false) :
    Call.Regular ⟨r, .passing feeds (p.setStage i st')⟩ := by
  have hk := hs.regular c _ hc
  exact ⟨hk.admitted, fun _ _ he => by cases he; exact (hk.pass feeds p rfl).setStage hb hst⟩

/-- A feed that is done gives its lock back. -/
theorem Orderly.set_done (hs : s.Orderly) (hc : s.calls[c]? = some ⟨r, .passing feeds p⟩)
    (hb : p.batch[i]? = some ⟨feed, st⟩) (blocks : List Block) :
    Orderly ⟨store, s.locks.release (· == ⟨c, some i⟩),
      s.calls.set c ⟨r, .passing feeds (p.setStage i (.done blocks))⟩⟩ := by
  refine hs.set hc (hs.locks.release _) ?_ ?_ ?_ (hs.regular_setStage hc hb fun _ => rfl)
  · intro o
    rw [Locks.asked?_release]
    by_cases ho : o = ⟨c, some i⟩
    · subst ho
      rw [if_pos rfl, hs.wants?_setStage hc hb rfl]
      simp [Stage.wantsLock]
    · by_cases hoc : o.call = c
      · rw [if_pos hoc, hs.wants?_setStage hc hb hoc]
        simp [ho]
      · simp [ho, hoc]
  · intro o hoc h
    rcases hs.isInside_setStage hc hb hoc h with ⟨-, h⟩ | ⟨hne, h⟩
    · cases h
    · exact Locks.holds_release h (by simpa using hne)
  · intro o hoc h
    exact Locks.holds_release h (beq_eq_false_iff_ne.mpr fun he => hoc (by rw [he]))

/-- A feed that goes on without asking for a lock or giving one back. -/
theorem Orderly.set_same (hs : s.Orderly) (hc : s.calls[c]? = some ⟨r, .passing feeds p⟩)
    (hb : p.batch[i]? = some ⟨feed, st⟩) (hw : st'.wantsLock = st.wantsLock)
    (hcl : st'.isCleared = true → s.locks.holds ⟨c, some i⟩ = true) :
    Orderly ⟨store, s.locks, s.calls.set c ⟨r, .passing feeds (p.setStage i st')⟩⟩ := by
  have hp := (hs.regular c _ hc).pass feeds p rfl
  refine hs.set hc hs.locks ?_ ?_ (fun _ _ h => h) (hs.regular_setStage hc hb fun hg => ?_)
  · intro o
    split
    · next hoc =>
      rw [hs.wants?_setStage hc hb hoc]
      split
      · next ho => rw [ho, hs.asked?_slot hc hb, hw]
      · rfl
    · rfl
  · intro o hoc h
    rcases hs.isInside_setStage hc hb hoc h with ⟨rfl, hst⟩ | ⟨-, hold⟩
    · exact hcl hst
    · exact hold
  · rw [hw]
    exact hp.unguarded hg ⟨feed, st⟩ (List.mem_of_getElem? hb)

/-- A feed that lines up for the lock of its listing. -/
theorem Orderly.set_queued {ps ps' : List Period} (hs : s.Orderly)
    (hc : s.calls[c]? = some ⟨r, .passing feeds p⟩) (hb : p.batch[i]? = some ⟨feed, .fetched ps⟩)
    (hg : p.guarded = true) :
    Orderly ⟨store, s.locks.lock ⟨c, some i⟩ feed.listing,
      s.calls.set c ⟨r, .passing feeds (p.setStage i (.queued ps'))⟩⟩ := by
  have hp := (hs.regular c _ hc).pass feeds p rfl
  have hnone : s.locks.asked? ⟨c, some i⟩ = none := hs.asked?_slot hc hb
  refine hs.set hc (hs.locks.lock (Locks.asked?_eq_none_iff.mp hnone)) ?_ ?_ ?_
    (hs.regular_setStage hc hb fun hf => ?_)
  · intro o
    rw [Locks.asked?_lock hnone]
    by_cases hoc : o.call = c
    · rw [if_pos hoc, hs.wants?_setStage hc hb hoc]
      rfl
    · rw [if_neg hoc, if_neg fun he => hoc (by rw [he])]
  · intro o hoc h
    rcases hs.isInside_setStage hc hb hoc h with ⟨-, h⟩ | ⟨-, h⟩
    · cases h
    · exact Locks.holds_lock h _
  · exact fun o _ h => Locks.holds_lock h _
  · rw [hp.guarded_eq, hf] at hg
    cases hg

theorem Orderly.move_advance (hs : s.Orderly) (hc : s.calls[c]? = some ⟨r, .passing feeds p⟩)
    (hb : p.batch[i]? = some ⟨feed, st⟩) (ha : s.Advance c i p feed e st st' store locks) :
    Orderly ⟨store, locks, s.calls.set c ⟨r, .passing feeds (p.setStage i st')⟩⟩ := by
  cases ha with
  | send => exact hs.set_same hc hb rfl fun h => by cases h
  | receive d => exact hs.set_same hc hb rfl fun h => by cases h
  | clear hh _ => exact hs.set_same hc hb rfl fun _ => hh
  | lineUp hg => exact hs.set_queued hc hb hg
  | skip _ _ => exact hs.set_done hc hb _
  | write _ _ => exact hs.set_done hc hb _
  | fail _ _ => exact hs.set_done hc hb _

/-- A call whose feeds want no lock, before and after it gets a new batch. -/
theorem Orderly.set_batch {phase : Phase} {p' : Pass} (hs : s.Orderly)
    (hc : s.calls[c]? = some ⟨r, phase⟩) (hover : Call.isOver ⟨r, phase⟩ = false)
    (hp : p'.Regular r.guarded feeds)
    (hidle : ∀ slot ∈ p'.batch, slot.stage.wantsLock = false)
    (hcall : Call.wants? ⟨r, phase⟩ none = r.listing?)
    (hslots : ∀ j, Call.wants? ⟨r, phase⟩ (some j) = none)
    (hin : r.listing?.isSome = true → s.locks.holds ⟨c, none⟩ = true) :
    Orderly ⟨store, s.locks, s.calls.set c ⟨r, .passing feeds p'⟩⟩ := by
  refine hs.set hc hs.locks ?_ ?_ (fun _ _ h => h)
    ⟨fun _ => (hs.regular c _ hc).admitted hover, fun _ _ he => by cases he; exact hp⟩
  · rintro ⟨c', j⟩
    split
    · next hoc =>
      rw [show c' = c from hoc, hs.asked?_eq hc]
      cases j with
      | none => exact hcall
      | some j => exact (hslots j).trans (Pass.wants?_eq_none hidle j).symm
    · rfl
  · rintro ⟨c', j⟩ rfl h
    cases j with
    | none => exact hin h
    | some j =>
      simp only [Call.isInside, Pass.isCleared_eq_false hidle] at h
      cases h

/-- A call that comes in without asking for a lock. -/
theorem Orderly.enter (hs : s.Orderly) {k : Call} (hk : k.Regular)
    (hw : ∀ j, k.wants? j = none) (hin : ∀ j, k.isInside j = false) :
    Orderly ⟨s.store, s.locks, s.calls ++ [k]⟩ := by
  refine hs.append hs.locks ?_ hin (fun _ h => h) hk
  rintro ⟨c, j⟩
  split
  · next hoc => rw [show c = s.calls.length from hoc, hs.asked?_new, hw]
  · rfl

end

theorem Orderly.move {size : Nat} {s s' : State} {e : Event} (hs : s.Orderly)
    (h : Move size s e s') : s'.Orderly := by
  cases h with
  | refuse he =>
    exact hs.enter ⟨fun h => (by simp [Call.isOver] at h), fun _ _ h => by cases h⟩
      (fun j => by cases j <;> rfl) (fun j => by cases j <;> rfl)
  | @join r listing hr hl =>
    have hnone := hs.asked?_new none
    refine hs.append (hs.locks.lock (Locks.asked?_eq_none_iff.mp hnone)) ?_
      (fun j => by cases j <;> rfl) (fun _ h => Locks.holds_lock h _)
      ⟨fun _ => hr, fun _ _ h => by cases h⟩
    rintro ⟨c, j⟩
    rw [Locks.asked?_lock hnone]
    by_cases hoc : c = s.calls.length
    · subst hoc
      cases j with
      | none => simp [Call.wants?, hl]
      | some j => simp [Call.wants?, hs.asked?_new]
    · simp [hoc]
  | @enter r hr hl =>
    refine hs.enter ⟨fun _ => hr, fun _ _ h => by cases h⟩ (fun j => ?_) (fun j => by cases j <;> rfl)
    cases j with
    | none => exact hl
    | some j => rfl
  | @list c r down store feeds hc hm hlist =>
    have hidle : ∀ slot ∈ (Pass.start r.guarded size feeds).batch,
        slot.stage.wantsLock = false := fun slot h => by rw [Pass.load_idle h]; rfl
    refine hs.set_batch hc rfl (.start _ _ _) hidle rfl (fun _ => rfl) fun h => ?_
    -- the call was let in because it holds its lock
    simpa [mayList, Request.guarded, Option.isSome_iff_ne_none.mp h] using hm
  | listFail hc _ _ => exact hs.over hc rfl
  | advance hc hb ha => exact hs.move_advance hc hb ha
  | @next c r feeds p written hc hw _ =>
    -- nobody of the old batch has a ticket any more, and nobody of the new one has drawn one
    have hdone : ∀ slot ∈ p.batch, slot.stage.wantsLock = false := fun slot h => by
      obtain ⟨bs, -, he⟩ := Pass.done_of_written? hw h
      rw [he]; rfl
    have hidle : ∀ slot ∈ (p.next written).batch, slot.stage.wantsLock = false :=
      fun slot h => by rw [Pass.load_idle h]; rfl
    have hp := (hs.regular c _ hc).pass feeds p rfl
    refine hs.set_batch hc rfl (hp.next hw) hidle rfl (Pass.wants?_eq_none hdone) fun h => ?_
    exact hs.inside _ (by simpa [isInside, hc, Call.isInside] using h)
  | finish hc _ _ => exact hs.over hc rfl
  | drop hc _ => exact hs.over hc rfl

theorem Orderly.run {size : Nat} {s s' : State} {es : List Event} (hs : s.Orderly)
    (h : s.run? size es = some s') : s'.Orderly :=
  run?_induction (motive := Orderly) (fun hs h => hs.move (step?_move h)) hs h

end State

end Lodging.Sync
