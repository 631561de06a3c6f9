import Lodging.Proofs.Sync.Course
import Lodging.Proofs.Sync.Grounds
import Lodging.Proofs.Sync.Places
import Lodging.Proofs.Sync.Serial
import Mathlib.Logic.Function.Basic

/-! # The account of a run

What has to be known of a run to do the same work serially: what every call met when it listed its
feeds, what every feed met on its way, and in which order the lock of each listing was got. Entries are
made when things happen and are not changed once the work they are about is done. -/

namespace Lodging.Sync

open Calendar

/-! ## Stints -/

/-- Work under the lock of a listing: a whole call, or the feed at a place of a call on all feeds. -/
structure Stint where
  call : Nat
  place : Option Nat
  deriving DecidableEq

/-- Only the call on all feeds takes locks one by one. -/
theorem Request.eq_of_guarded {r : Request} (h : r.guarded = true) : r = .refresh none := by
  cases r with
  | setFeeds listing urls => cases h
  | refresh listing =>
    cases listing with
    | none => rfl
    | some listing => cases h

/-- What the call has to return for the feed at a place, if it is a call on all feeds. -/
def Call.blocksAt? (k : Call) (n : Nat) : Option (List Block) :=
  match k.phase with
  | .passing _ p => if k.request.guarded then (p.stageAt n).blocks? else none
  | .finished (.blocks bs) => bs[n]?
  | _ => none

namespace State

def place (s : State) (c i : Nat) : Nat :=
  match s.calls[c]? with
  | some ⟨_, .passing _ p⟩ => p.results.length + i
  | _ => i

def stint (s : State) (o : Party) : Stint := ⟨o.call, o.slot.map (s.place o.call)⟩

def answer? (s : State) : Stint → Option Outcome
  | ⟨c, none⟩ => s.calls[c]?.bind (·.outcome?)
  | ⟨c, some n⟩ => (s.calls[c]?.bind (·.blocksAt? n)).map fun bs => .blocks [bs]

end State

/-! ## Entries -/

/-- How a call listed its feeds: what failed, the next free identifier, and the feeds it got. -/
structure Opening where
  request : Request
  down : Outage
  fresh : Nat
  feeds : List Feed

def State.opening (s : State) (c : Nat) (down : Outage) : Opening :=
  let request := (s.calls[c]?.map (·.request)).getD (.refresh none)
  { request, down, fresh := s.store.fresh
    feeds := match listFeeds s.store down request with
      | .ok (_, feeds) => feeds
      | .error _ => [] }

structure Account where
  opening : Nat → Opening
  /-- What the feeds of a call met, by their places. -/
  supply : Nat → Nat → Supply
  /-- Whose the lock of a listing was, one after another. -/
  order : Int → List Stint

namespace Account

def blank : Account :=
  { opening := fun _ => ⟨.refresh none, [], 0, []⟩
    supply := fun _ _ => ⟨.ok "", [], [], 0⟩
    order := fun _ => [] }

def enter (a : Account) (c n : Nat) (f : Supply → Supply) : Account :=
  let supply := Function.update (a.supply c) n (f (a.supply c n))
  { a with supply := Function.update a.supply c supply }

def note (a : Account) (s : State) : Event → Account
  | .list c down => { a with opening := Function.update a.opening c (s.opening c down) }
  | .receive c i d => a.enter c (s.place c i) fun m => { m with download := d }
  | .recheck c i down => a.enter c (s.place c i) fun m => { m with recheck := down }
  | .write c i down => a.enter c (s.place c i) fun m =>
      { m with write := down, fresh := s.store.fresh }
  | _ => a

def grant (a : Account) (s s' : State) : Account :=
  { a with order := fun listing => a.order listing ++
      if s'.locks.owner? listing = s.locks.owner? listing then []
      else ((s'.locks.owner? listing).map s'.stint).toList }

def ofRun (size : Nat) (s : State) (a : Account) : List Event → Account
  | [] => a
  | e :: es =>
    match s.step? size e with
    | some s' => ofRun size s' ((a.note s e).grant s s') es
    | none => a

def job (a : Account) : Stint → Job
  | ⟨c, none⟩ =>
    .call (a.opening c).request (a.opening c).down (a.opening c).fresh (a.supply c)
  | ⟨c, some n⟩ => .feed ((a.opening c).feeds[n]?.getD ⟨0, 0, ""⟩) (a.supply c n)

/-- What every step carries over to the state and the account after it holds after every run. -/
theorem ofRun_induction {size : Nat} {motive : State → Account → Prop}
    (step : ∀ {s s' : State} {a : Account} {e : Event}, motive s a → s.step? size e = some s' →
      motive s' ((a.note s e).grant s s')) :
    ∀ {es : List Event} {s s' : State} {a : Account}, motive s a → s.run? size es = some s' →
      motive s' (ofRun size s a es)
  | [], _, _, _, hs, h => Option.some.inj h ▸ hs
  | e :: es, s, _, a, hs, h => by
    obtain ⟨s₁, h₁, h₂⟩ := Option.bind_eq_some_iff.mp h
    rw [ofRun, h₁]
    exact ofRun_induction step (step hs h₁) h₂

@[simp] theorem supply_enter (a : Account) (c n : Nat) (f : Supply → Supply) :
    (a.enter c n f).supply c n = f (a.supply c n) := by
  simp [enter]

theorem supply_enter_of_ne (a : Account) {c n c' n' : Nat} (h : ¬ (c' = c ∧ n' = n))
    (f : Supply → Supply) : (a.enter c n f).supply c' n' = a.supply c' n' := by
  unfold enter
  by_cases hc : c' = c
  · subst hc
    simp [Function.update_of_ne fun hn => h ⟨rfl, hn⟩]
  · simp [Function.update_of_ne hc]

@[simp] theorem job_grant (a : Account) (s s' : State) : (a.grant s s').job = a.job := by
  funext t
  rcases t with ⟨c, _ | n⟩ <;> rfl

end Account

/-! ## What a step enters -/

namespace State

theorem place_eq {s : State} {c : Nat} {r : Request} {feeds : List Feed} {p : Pass}
    (hc : s.calls[c]? = some ⟨r, .passing feeds p⟩) (i : Nat) :
    s.place c i = p.results.length + i := by
  simp [place, hc]

/-- Nothing is entered for other calls. -/
theorem note_of_ne (a : Account) (s : State) {e : Event} {c : Nat} (hc : caller? e ≠ some c) :
    (a.note s e).opening c = a.opening c ∧ (a.note s e).supply c = a.supply c := by
  have hsupply : ∀ (c' n : Nat) (f : Supply → Supply), caller? e = some c' →
      (a.enter c' n f).supply c = a.supply c := fun c' n f hc' => by
    have hne : c ≠ c' := fun h => hc (h ▸ hc')
    exact funext fun n' => a.supply_enter_of_ne (fun h => hne h.1) f
  cases e with
  | list c' down =>
    exact ⟨Function.update_of_ne (fun h => hc (congrArg some h.symm)) _ _, rfl⟩
  | receive c' i d => exact ⟨rfl, by rw [Account.note, hsupply c' _ _ rfl]⟩
  | recheck c' i down => exact ⟨rfl, by rw [Account.note, hsupply c' _ _ rfl]⟩
  | write c' i down => exact ⟨rfl, by rw [Account.note, hsupply c' _ _ rfl]⟩
  | _ => exact ⟨rfl, rfl⟩

variable {s : State} {c i : Nat} {r : Request} {feeds : List Feed} {p : Pass} {feed : Feed}
  {e : Event} {st st' : Stage} {store : Store} {locks : Locks Party}

theorem Advance.opening_note (h : s.Advance c i p feed e st st' store locks) (a : Account) :
    (a.note s e).opening = a.opening := by
  cases h <;> rfl

/-- Moving a feed on enters nothing for other places. -/
theorem Advance.supply_note (h : s.Advance c i p feed e st st' store locks)
    (hc : s.calls[c]? = some ⟨r, .passing feeds p⟩) (a : Account) {n : Nat}
    (hn : n ≠ p.results.length + i) : (a.note s e).supply c n = a.supply c n := by
  have henter : ∀ f, (a.enter c (s.place c i) f).supply c n = a.supply c n :=
    a.supply_enter_of_ne fun h => hn (h.2.trans (place_eq hc i))
  cases h with
  | send => rfl
  | lineUp _ => rfl
  | receive d => rw [Account.note, henter]
  | clear _ _ => rw [Account.note, henter]
  | skip _ _ => rw [Account.note, henter]
  | write _ _ => rw [Account.note, henter]
  | fail _ _ => rw [Account.note, henter]

/-! ## Answers last -/

theorem Advance.not_done (h : s.Advance c i p feed e st st' store locks) : st.blocks? = none := by
  have hw : ∀ {ps : List Period}, toWrite? p st = some ps → st.blocks? = none := fun hps => by
    cases st with
    | done bs => cases hps
    | _ => rfl
  cases h with
  | write hps _ => exact hw hps
  | fail hps _ => exact hw hps
  | _ => rfl

theorem Move.answer_of_passing {size : Nat} {s' : State} (h : Move size s e s')
    (hdrop : ∀ d, e ≠ .drop d) (hc : caller? e = some c)
    (hk : s.calls[c]? = some ⟨r, .passing feeds p⟩) {n : Nat} {bs : List Block}
    (hb : Call.blocksAt? ⟨r, .passing feeds p⟩ n = some bs) (a : Account) :
    s'.answer? ⟨c, some n⟩ = some (.blocks [bs]) ∧
      (a.note s e).job ⟨c, some n⟩ = a.job ⟨c, some n⟩ := by
  have hg : r.guarded = true := by
    by_contra hg
    simp [Call.blocksAt?, hg] at hb
  have hst : (p.stageAt n).blocks? = some bs := by simpa [Call.blocksAt?, hg] using hb
  have hlt := (List.getElem?_eq_some_iff.mp hk).1
  cases h with
  | refuse _ => cases hc
  | join _ _ => cases hc
  | enter _ _ => cases hc
  | drop _ _ => exact absurd rfl (hdrop _)
  | list hd _ _ => cases hc; cases hk.symm.trans hd
  | listFail hd _ _ => cases hc; cases hk.symm.trans hd
  | advance hd hb ha =>
    cases ha.caller?.symm.trans hc
    cases hk.symm.trans hd
    have hn : n ≠ p.results.length + _ := fun hn => by
      rw [hn, Pass.stageAt_batch hb, ha.not_done] at hst
      cases hst
    refine ⟨?_, ?_⟩
    · simp [answer?, hlt, Call.blocksAt?, hg, Pass.stageAt_setStage hb, hn, hst]
    · simp only [Account.job, ha.opening_note, ha.supply_note hk a hn]
  | next hd hw _ =>
    cases hc
    cases hk.symm.trans hd
    exact ⟨by simp [answer?, hlt, Call.blocksAt?, hg, Pass.stageAt_next hw, hst], rfl⟩
  | finish hd hw _ =>
    cases hc
    cases hk.symm.trans hd
    have hr := Request.eq_of_guarded hg
    subst hr
    refine ⟨?_, rfl⟩
    rw [Pass.stageAt_of_written? hw] at hst
    cases hn : (p.results ++ _)[n]? with
    | none => rw [hn] at hst; cases hst
    | some bs' =>
      rw [hn] at hst
      cases hst
      simp [answer?, hlt, Call.blocksAt?, Call.outcomeOf, hn]

/-- What was returned for a stint stays, and so does the entry of its work. -/
theorem Move.answer {size : Nat} {s' : State} (h : Move size s e s') (hdrop : ∀ d, e ≠ .drop d)
    {t : Stint} {o : Outcome} (ht : s.answer? t = some o) (a : Account) :
    s'.answer? t = some o ∧ (a.note s e).job t = a.job t := by
  obtain ⟨c, n⟩ := t
  by_cases hc : caller? e = some c
  · cases n with
    | none =>
      -- a call that has returned makes no step
      obtain ⟨⟨r, phase⟩, hk, ho⟩ := Option.bind_eq_some_iff.mp ht
      have hover := h.not_over hc hk
      cases phase with
      | finished o' => cases hover
      | _ => cases ho
    | some n =>
      obtain ⟨bs, hb, ho⟩ := Option.map_eq_some_iff.mp ht
      obtain ⟨⟨r, phase⟩, hk, hb⟩ := Option.bind_eq_some_iff.mp hb
      have hover := h.not_over hc hk
      cases phase with
      | waiting => cases hb
      | finished o' => cases hover
      | dropped => cases hover
      | passing feeds p => exact ho ▸ h.answer_of_passing hdrop hc hk hb a
  · obtain ⟨hopening, hsupply⟩ := note_of_ne a s hc
    cases n with
    | none =>
      obtain ⟨k, hk, ho⟩ := Option.bind_eq_some_iff.mp ht
      refine ⟨Option.bind_eq_some_iff.mpr ⟨k, h.calls_of_ne hk hc, ho⟩, ?_⟩
      simp only [Account.job, hopening, hsupply]
    | some n =>
      obtain ⟨bs, hb, ho⟩ := Option.map_eq_some_iff.mp ht
      obtain ⟨k, hk, hb⟩ := Option.bind_eq_some_iff.mp hb
      refine ⟨?_, by simp only [Account.job, hopening, hsupply]⟩
      rw [answer?, h.calls_of_ne hk hc, Option.bind_some, hb, Option.map_some, ho]

/-! ## The account is right -/

/-- The account says what a pass lists, what it has read and, if it is not guarded, what it wrote. -/
structure Tells (a : Account) (c : Nat) (r : Request) (feeds : List Feed) (p : Pass) : Prop where
  request : (a.opening c).request = r
  listed : (a.opening c).feeds = feeds
  read : ∀ n ps, (p.stageAt n).periods? = some ps → ps = periodsOf (a.supply c n).download
  written : r.guarded = false → ∀ n bs f, p.stageAt n = .done bs → feeds[n]? = some f →
    bs = (a.supply c n).blocks f

theorem supply_note_at (a : Account) (hc : s.calls[c]? = some ⟨r, .passing feeds p⟩) (i : Nat)
    (f : Supply → Supply) : (a.enter c (s.place c i) f).supply c (p.results.length + i) =
      f (a.supply c (p.results.length + i)) := by
  rw [place_eq hc, Account.supply_enter]

/-- What is entered for the feed that is moved on. -/
theorem Tells.advance_at {a : Account} (ha : Tells a c r feeds p)
    (hp : p.Regular r.guarded feeds) (hc : s.calls[c]? = some ⟨r, .passing feeds p⟩)
    (hb : p.batch[i]? = some ⟨feed, st⟩) (h : s.Advance c i p feed e st st' store locks) :
    (∀ ps, st'.periods? = some ps →
      ps = periodsOf ((a.note s e).supply c (p.results.length + i)).download) ∧
    (r.guarded = false → ∀ bs, st' = .done bs →
      bs = ((a.note s e).supply c (p.results.length + i)).blocks feed) := by
  have hread : ∀ ps, st.periods? = some ps →
      ps = periodsOf (a.supply c (p.results.length + i)).download := fun ps hps =>
    ha.read _ ps (by rw [Pass.stageAt_batch hb]; exact hps)
  cases h with
  | send => exact ⟨fun _ h => (by cases h), fun _ _ h => by cases h⟩
  | lineUp _ => exact ⟨hread, fun _ _ h => by cases h⟩
  | receive d =>
    refine ⟨fun ps h => ?_, fun _ _ h => by cases h⟩
    rw [Account.note, supply_note_at a hc]
    exact (Option.some.inj h).symm
  | clear _ _ =>
    refine ⟨fun ps h => ?_, fun _ _ h => by cases h⟩
    rw [Account.note, supply_note_at a hc]
    exact hread ps h
  | skip _ _ =>
    refine ⟨fun _ h => (by cases h), fun hg => ?_⟩
    have := hp.unguarded hg _ (List.mem_of_getElem? hb)
    cases this
  | @write st ps down hw hd =>
    refine ⟨fun _ h => (by cases h), fun _ bs h => ?_⟩
    rw [Account.note, supply_note_at a hc, Supply.blocks, if_neg hd,
      ← hread ps (toWrite?_periods? hw)]
    exact (Stage.done.inj h).symm
  | @fail st ps down hw hd =>
    refine ⟨fun _ h => (by cases h), fun _ bs h => ?_⟩
    rw [Account.note, supply_note_at a hc, Supply.blocks, if_pos hd]
    exact (Stage.done.inj h).symm

theorem Tells.advance {a : Account} (ha : Tells a c r feeds p)
    (hp : p.Regular r.guarded feeds) (hc : s.calls[c]? = some ⟨r, .passing feeds p⟩)
    (hb : p.batch[i]? = some ⟨feed, st⟩) (h : s.Advance c i p feed e st st' store locks) :
    Tells (a.note s e) c r feeds (p.setStage i st') := by
  obtain ⟨hread, hwritten⟩ := ha.advance_at hp hc hb h
  refine ⟨by rw [h.opening_note, ha.request], by rw [h.opening_note, ha.listed],
    fun n ps hps => ?_, fun hg n bs f hst hf => ?_⟩
  · rw [Pass.stageAt_setStage hb] at hps
    split at hps
    · next hn => exact hn ▸ hread ps hps
    · next hn => rw [h.supply_note hc a hn]; exact ha.read n ps hps
  · rw [Pass.stageAt_setStage hb] at hst
    split at hst
    · next hn =>
      subst hn
      cases (hp.feed_at hb).symm.trans hf
      exact hwritten hg bs hst
    · next hn => rw [h.supply_note hc a hn]; exact ha.written hg n bs f hst hf

/-- The account is right about all passes, and says nothing of calls that have not listed their feeds. -/
structure Faithful (s : State) (a : Account) : Prop where
  unopened : ∀ (c : Nat), (∀ k, s.calls[c]? = some k → k.phase = .waiting) →
    (a.opening c).feeds = []
  passing : s.EveryPass (Tells a)

theorem faithful_blank (store : Store) : Faithful (quiet store) .blank :=
  ⟨fun _ _ => rfl, everyPass_of_calls_nil rfl⟩

theorem Faithful.grant {a : Account} (hs : Faithful s a) (s₁ s₂ : State) :
    Faithful s (a.grant s₁ s₂) := by
  refine ⟨hs.unopened, fun c r feeds p hc => ?_⟩
  obtain ⟨hreq, hlisted, hread, hwritten⟩ := hs.passing c r feeds p hc
  exact ⟨hreq, hlisted, hread, hwritten⟩

/-- A call that has made a step does not wait any more. -/
theorem Move.not_waiting {size : Nat} {s' : State} (h : Move size s e s') {c : Nat}
    (hc : caller? e = some c) : ∃ k, s'.calls[c]? = some k ∧ k.phase ≠ .waiting := by
  cases h with
  | refuse _ => cases hc
  | join _ _ => cases hc
  | enter _ _ => cases hc
  | advance hk _ ha =>
    obtain rfl := Option.some.inj (ha.caller?.symm.trans hc)
    exact ⟨_, calls_set_self hk _, nofun⟩
  | list hk _ _ => cases hc; exact ⟨_, calls_set_self hk _, nofun⟩
  | listFail hk _ _ => cases hc; exact ⟨_, calls_set_self hk _, nofun⟩
  | next hk _ _ => cases hc; exact ⟨_, calls_set_self hk _, nofun⟩
  | finish hk _ _ => cases hc; exact ⟨_, calls_set_self hk _, nofun⟩
  | drop hk _ => cases hc; exact ⟨_, calls_set_self hk _, nofun⟩

theorem Faithful.unopened_move {a : Account} {size : Nat} {s' : State} (hs : Faithful s a)
    (h : Move size s e s') {c : Nat} (hw : ∀ k, s'.calls[c]? = some k → k.phase = .waiting) :
    ((a.note s e).opening c).feeds = [] := by
  by_cases hc : caller? e = some c
  · obtain ⟨k, hk, hne⟩ := h.not_waiting hc
    exact absurd (hw k hk) hne
  · rw [(note_of_ne a s hc).1]
    exact hs.unopened c fun k hk => hw k (h.calls_of_ne hk hc)

theorem Faithful.move {a : Account} {size : Nat} {s' : State} (hs : Faithful s a)
    (ho : s.Orderly) (h : Move size s e s') : Faithful s' (a.note s e) := by
  refine ⟨fun c => hs.unopened_move h, hs.passing.move h ?_ ?_ ?_ ?_⟩
  · rintro c r feeds p hne ⟨hreq, hlisted, hread, hwritten⟩
    obtain ⟨hopening, hsupply⟩ := note_of_ne a s hne
    exact ⟨by rw [hopening, hreq], by rw [hopening, hlisted], by rwa [hsupply], by rwa [hsupply]⟩
  · rintro c r down feeds rfl hc hlist
    have hopening : (a.note s (.list c down)).opening c = s.opening c down :=
      Function.update_self ..
    have hidle : ∀ n, (Pass.start r.guarded size feeds).stageAt n = .idle :=
      Pass.stageAt_start r.guarded size feeds
    exact ⟨by rw [hopening]; simp [opening, hc], by rw [hopening]; simp [opening, hc, hlist],
      fun n ps h => (by rw [hidle] at h; cases h), fun _ n bs f h => by rw [hidle] at h; cases h⟩
  · exact fun hc hb ha ht => ht.advance ((ho.regular _ _ hc).pass _ _ rfl) hc hb ha
  · rintro c r feeds p written rfl hw ⟨hreq, hlisted, hread, hwritten⟩
    simp only [← Pass.stageAt_next hw] at hread hwritten
    exact ⟨hreq, hlisted, hread, hwritten⟩

end State

end Lodging.Sync
