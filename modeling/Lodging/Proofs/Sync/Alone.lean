import Lodging.Proofs.Sync.Course
import Lodging.Proofs.Sync.Grounds
import Lodging.Proofs.Sync.Openings
import Mathlib.Algebra.Order.Ring.Nat

/-! # A refresh that runs alone

A refresh that comes into a service where every call is over makes all the steps from then on. It goes
on until it has returned: nobody else has a lock, so of the feeds that wait for the lock of one listing
there is always one that has it. And it returns, because every step leaves less to be done. -/

namespace Lodging.Sync

open Calendar

/-- What URLs give, and the pairs of a listing and a URL whose blocks the store fails to replace. -/
structure Conditions where
  docs : String → Download
  lost : Int → String → Bool

def Conditions.outage (w : Conditions) (listing : Int) (url : String) : Outage :=
  if w.lost listing url then [.replaceBlocks] else []

def Stage.left : Stage → Nat
  | idle => 5
  | fetching => 4
  | fetched _ => 3
  | queued _ => 2
  | cleared _ => 1
  | done _ => 0

/-- The steps of a pass that are left at most: each feed of a later batch takes five and perhaps a turn,
and the last turn ends the call. -/
def Pass.left (p : Pass) : Nat :=
  (p.batch.map (·.stage.left)).sum + 6 * p.rest.length + 1

/-- The steps of a call that are left at most, if it finds, or has found, that many feeds. -/
def Phase.left (n : Nat) : Phase → Nat
  | waiting => 6 * n + 2
  | passing _ p => p.left
  | finished _ => 0
  | dropped => 0

namespace Pass

theorem left_load (guarded : Bool) {size : Nat} (hsize : 0 < size) (results : List (List Block))
    {feeds : List Feed} (hfeeds : feeds ≠ []) :
    (load guarded size results feeds).left ≤ 6 * feeds.length := by
  have hbatch : ((load guarded size results feeds).batch.map (·.stage.left)).sum =
      5 * (feeds.take size).length := by
    simp [load, Function.comp_def, Stage.left, Nat.mul_comm]
  have hpos : 0 < feeds.length := List.length_pos_iff.mpr hfeeds
  have hrest : (load guarded size results feeds).rest.length = feeds.length - size :=
    List.length_drop
  rw [left, hbatch, hrest, List.length_take]
  omega

theorem left_start (guarded : Bool) (size : Nat) (feeds : List Feed) :
    (start guarded size feeds).left ≤ 6 * feeds.length + 1 := by
  by_cases hfeeds : feeds = []
  · subst hfeeds
    simp [start, load, left]
  · have := left_load guarded (by omega : 0 < max size 1) [] hfeeds
    rw [start]
    omega

theorem left_setStage {p : Pass} {i : Nat} {feed : Feed} {st st' : Stage}
    (h : p.batch[i]? = some ⟨feed, st⟩) (hst : st'.left < st.left) :
    (p.setStage i st').left < p.left := by
  obtain ⟨hi, hget⟩ := List.getElem?_eq_some_iff.mp h
  have hold : p.batch = p.batch.take i ++ ⟨feed, st⟩ :: p.batch.drop (i + 1) := by
    rw [← hget, List.getElem_cons_drop, List.take_append_drop]
  have hnew : (p.setStage i st').batch =
      p.batch.take i ++ ⟨feed, st'⟩ :: p.batch.drop (i + 1) := by
    rw [setStage, State.modify_eq_set h, List.set_eq_take_append_cons_drop, if_pos hi]
  have hrest : (p.setStage i st').rest = p.rest := rfl
  rw [left, left, hnew, hrest, congrArg (List.map _) hold]
  simp only [List.map_append, List.map_cons, List.sum_append_nat, List.sum_cons]
  omega

theorem left_next {p : Pass} (hsize : 0 < p.size) (hrest : p.rest ≠ []) (written : List (List Block)) :
    (p.next written).left < p.left := by
  have := left_load p.guarded hsize (p.results ++ written) hrest
  simp only [next, left] at this ⊢
  omega

end Pass

namespace State

/-- No other call comes in and none is given up, feeds are found, and downloads and writes go as the
conditions say. -/
def Meets (w : Conditions) (s : State) : Event → Prop
  | .submit _ => False
  | .list _ down => Access.findFeeds ∉ down
  | .receive c i d => ∀ found ∈ s.slot? c i, d = w.docs found.2.feed.url
  | .recheck _ _ down => Access.findFeeds ∉ down
  | .write c i down => ∀ found ∈ s.slot? c i,
      (Access.replaceBlocks ∈ down ↔ w.lost found.2.feed.listing found.2.feed.url = true)
  | .drop _ => False
  | _ => True

instance (w : Conditions) (s : State) : (e : Event) → Decidable (s.Meets w e)
  | .submit _ => inferInstanceAs (Decidable False)
  | .list _ down => inferInstanceAs (Decidable (Access.findFeeds ∉ down))
  | .receive c i d =>
    inferInstanceAs (Decidable (∀ found ∈ s.slot? c i, d = w.docs found.2.feed.url))
  | .recheck _ _ down => inferInstanceAs (Decidable (Access.findFeeds ∉ down))
  | .write c i down => inferInstanceAs (Decidable (∀ found ∈ s.slot? c i,
      (Access.replaceBlocks ∈ down ↔ w.lost found.2.feed.listing found.2.feed.url = true)))
  | .drop _ => inferInstanceAs (Decidable False)
  | .send .. | .lineUp .. | .turn _ => .isTrue trivial

/-- Every call is over. -/
structure AtRest (s : State) : Prop where
  orderly : s.Orderly
  ended : ∀ k ∈ s.calls, k.isOver = true

theorem atRest_quiet (store : Store) : (quiet store).AtRest :=
  ⟨orderly_of_calls_nil rfl rfl, by simp [quiet]⟩

/-- After some calls that are over the last one makes this request. -/
structure Lone (old : List Call) (r : Request) (phase : Phase) (s : State) : Prop where
  orderly : s.Orderly
  calls : s.calls = old ++ [⟨r, phase⟩]
  ended : ∀ k ∈ old, k.isOver = true

variable {size : Nat} {w : Conditions} {old : List Call} {listing : Option Int} {r : Request}
  {phase : Phase} {s s' : State} {e : Event}

namespace Lone

theorem get (hs : s.Lone old r phase) : s.calls[old.length]? = some ⟨r, phase⟩ := by
  rw [hs.calls, List.getElem?_concat_length]

/-- Every other call is over. -/
theorem unique (hs : s.Lone old r phase) {c : Nat} {k : Call} (hc : s.calls[c]? = some k)
    (hk : k.isOver = false) : c = old.length ∧ k = ⟨r, phase⟩ := by
  rw [hs.calls, List.getElem?_append] at hc
  split at hc
  · rw [hs.ended k (List.mem_of_getElem? hc)] at hk
    cases hk
  · obtain ⟨h, rfl⟩ := List.getElem?_eq_some_iff.mp hc
    rw [List.length_singleton] at h
    exact ⟨by omega, List.getElem_singleton h⟩

theorem set (hs : s.Lone old r phase) {phase' : Phase} {store : Store} {locks : Locks Party}
    (ho : Orderly ⟨store, locks, s.calls.set old.length ⟨r, phase'⟩⟩) :
    Lone old r phase' ⟨store, locks, s.calls.set old.length ⟨r, phase'⟩⟩ where
  orderly := ho
  calls := by simp [hs.calls]
  ended := hs.ended

theorem atRest (hs : s.Lone old r phase) (h : Call.isOver ⟨r, phase⟩ = true) : s.AtRest where
  orderly := hs.orderly
  ended := by
    intro k hk
    rw [hs.calls, List.mem_append, List.mem_singleton] at hk
    rcases hk with hk | rfl
    · exact hs.ended k hk
    · exact h

theorem pass_regular {feeds : List Feed} {p : Pass} (hs : s.Lone old r (.passing feeds p)) :
    p.Regular r.guarded feeds :=
  (hs.orderly.regular _ _ hs.get).pass feeds p rfl

end Lone

theorem AtRest.submit (hs : s.AtRest) (hr : r.check = .ok ()) :
    (s.submit r).Lone s.calls r .waiting where
  orderly := hs.orderly.move (submit_move 0 s r)
  calls := by simp only [State.submit, hr]
  ended := hs.ended

/-! ## What it does -/

/-- A step of a refresh that runs alone, from phase to phase, with the store after it. -/
inductive Stride (size : Nat) (listing : Option Int) (s : State) (c : Nat) :
    Event → Phase → Phase → Store → Prop
  | list {down : Outage} : Stride size listing s c (.list c down) .waiting
      (.passing (s.store.findFeeds listing)
        (.start listing.isNone size (s.store.findFeeds listing))) s.store
  | advance {e : Event} {i : Nat} {feeds : List Feed} {p : Pass} {feed : Feed} {st st' : Stage}
      {store : Store} {locks : Locks Party} : p.batch[i]? = some ⟨feed, st⟩ →
      s.Advance c i p feed e st st' store locks →
      Stride size listing s c e (.passing feeds p) (.passing feeds (p.setStage i st')) store
  | next {feeds : List Feed} {p : Pass} {written : List (List Block)} :
      p.written? = some written → p.rest ≠ [] →
      Stride size listing s c (.turn c) (.passing feeds p) (.passing feeds (p.next written)) s.store
  | finish {feeds : List Feed} {p : Pass} {written : List (List Block)} :
      p.written? = some written → p.rest = [] →
      Stride size listing s c (.turn c) (.passing feeds p)
        (.finished (.blocks (p.results ++ written))) s.store

theorem Lone.stride (hs : s.Lone old (.refresh listing) phase) (hm : s.Meets w e) (h : Move size s e s') :
    ∃ phase', s'.Lone old (.refresh listing) phase' ∧
      Stride size listing s old.length e phase phase' s'.store := by
  have ho := hs.orderly.move h
  cases h with
  | refuse _ => exact hm.elim
  | join _ _ => exact hm.elim
  | enter _ _ => exact hm.elim
  | drop _ _ => exact hm.elim
  | list hc _ hlist =>
    obtain ⟨rfl, hk⟩ := hs.unique hc rfl
    cases hk
    obtain ⟨-, he⟩ := ask_eq_ok_iff.mp hlist
    cases he
    exact ⟨_, hs.set ho, .list⟩
  | listFail hc _ hlist =>
    obtain ⟨rfl, hk⟩ := hs.unique hc rfl
    cases hk
    rw [listFeeds, ask_eq_ok_iff.mpr ⟨hm, rfl⟩] at hlist
    cases hlist
  | advance hc hb ha =>
    obtain ⟨rfl, hk⟩ := hs.unique hc rfl
    cases hk
    exact ⟨_, hs.set ho, .advance hb ha⟩
  | next hc hw hr =>
    obtain ⟨rfl, hk⟩ := hs.unique hc rfl
    cases hk
    exact ⟨_, hs.set ho, .next hw hr⟩
  | finish hc hw hr =>
    obtain ⟨rfl, hk⟩ := hs.unique hc rfl
    cases hk
    exact ⟨_, hs.set ho, .finish hw hr⟩

/-! ## It comes to an end -/

theorem Advance.left_lt {c i : Nat} {p : Pass} {feed : Feed} {st st' : Stage} {store : Store}
    {locks : Locks Party} (h : s.Advance c i p feed e st st' store locks) : st'.left < st.left := by
  have hwrite : ∀ {ps : List Period}, toWrite? p st = some ps → 0 < st.left := fun hw => by
    cases st with
    | done _ => cases hw
    | _ => exact Nat.succ_pos _
  cases h with
  | write hw _ => exact hwrite hw
  | fail hw _ => exact hwrite hw
  | _ => simp [Stage.left]

/-- Every step leaves less to be done. -/
theorem Stride.left_lt {c : Nat} {phase' : Phase} {store : Store}
    (h : Stride size listing s c e phase phase' store)
    (hp : ∀ feeds p, phase = .passing feeds p → 0 < p.size) (n : Nat) :
    phase'.left n < phase.left (s.store.findFeeds listing).length := by
  cases h with
  | list =>
    have := Pass.left_start listing.isNone size (s.store.findFeeds listing)
    simp only [Phase.left]
    omega
  | advance hb ha => exact Pass.left_setStage hb ha.left_lt
  | @next feeds p written hw hr => exact Pass.left_next (hp feeds p rfl) hr written
  | finish _ _ =>
    simp only [Phase.left, Pass.left]
    omega

/-! ## It can go on -/

theorem offers_meets (w : Conditions) (s : State) : s.Offers (s.Meets w) where
  list := fun _ => ⟨[], List.not_mem_nil⟩
  send := fun _ _ => trivial
  receive := by
    intro c i p feed hslot
    refine ⟨w.docs feed.url, fun found hfound => ?_⟩
    rw [← Option.some.inj (hslot.symm.trans hfound)]
  lineUp := fun _ _ => trivial
  recheck := fun _ _ => ⟨[], List.not_mem_nil⟩
  write := by
    intro c i found hslot
    refine ⟨w.outage found.2.feed.listing found.2.feed.url, fun other hother => ?_⟩
    obtain rfl := Option.some.inj (hslot.symm.trans hother)
    rw [Conditions.outage]
    split <;> simp [*]
  turn := fun _ => trivial

/-- As long as it has not returned there is something that it can do. -/
theorem Lone.can_go_on (hs : s.Lone old r phase) (w : Conditions) (size : Nat)
    (h : Call.isOver ⟨r, phase⟩ = false) :
    ∃ e, s.Meets w e ∧ (s.step? size e).isSome = true :=
  (offers_meets w s).can_go_on hs.orderly hs.get h

variable {feeds : List Feed} {p : Pass}

theorem Lone.slot?_eq (hs : s.Lone old r (.passing feeds p)) (i : Nat) :
    s.slot? old.length i = p.batch[i]?.map (p, ·) := by
  simp [slot?, hs.get]

/-! ## Runs -/

theorem Lone.step_left (hs : s.Lone old (.refresh listing) phase) (hm : s.Meets w e)
    (h : s.step? size e = some s') : ∃ phase', s'.Lone old (.refresh listing) phase' ∧
      phase'.left (s'.store.findFeeds listing).length <
        phase.left (s.store.findFeeds listing).length := by
  obtain ⟨phase', hs', hstride⟩ := hs.stride hm (step?_move h)
  refine ⟨phase', hs', hstride.left_lt (fun feeds p hphase => ?_) _⟩
  subst hphase
  exact hs.pass_regular.size_pos

/-- A run takes no more steps than were left before it. -/
theorem Lone.run_left {es : List Event} (hs : s.Lone old (.refresh listing) phase)
    (hes : Along size (Meets w) s es) (h : s.run? size es = some s') :
    ∃ phase', s'.Lone old (.refresh listing) phase' ∧
      es.length + phase'.left (s'.store.findFeeds listing).length ≤
        phase.left (s.store.findFeeds listing).length := by
  induction es generalizing s phase with
  | nil =>
    obtain rfl := Option.some.inj h
    exact ⟨phase, hs, by simp⟩
  | cons e es ih =>
    obtain ⟨s₁, h₁, h₂⟩ := Option.bind_eq_some_iff.mp h
    obtain ⟨phase₁, hs₁, hlt⟩ := hs.step_left hes.1 h₁
    obtain ⟨phase', hs', hle⟩ := ih hs₁ (hes.2 s₁ h₁) h₂
    refine ⟨phase', hs', ?_⟩
    rw [List.length_cons]
    omega

/-- From wherever it is it can go on until it is over. -/
theorem Lone.exists_run (hs : s.Lone old (.refresh listing) phase) (w : Conditions) (size : Nat) :
    ∃ es s', Along size (Meets w) s es ∧ s.run? size es = some s' ∧
      ∃ phase', s'.Lone old (.refresh listing) phase' ∧ Call.isOver ⟨.refresh listing, phase'⟩ = true := by
  refine exists_run_of_lt (motive := fun n s => ∃ phase, s.Lone old (.refresh listing) phase ∧
    phase.left (s.store.findFeeds listing).length = n) ?_ ⟨phase, hs, rfl⟩
  rintro n s ⟨phase, hs, hn⟩
  cases hover : Call.isOver ⟨.refresh listing, phase⟩ with
  | true => exact .inl ⟨phase, hs, hover⟩
  | false =>
    obtain ⟨e, hm, hstep⟩ := hs.can_go_on w size hover
    obtain ⟨s₁, h₁⟩ := Option.isSome_iff_exists.mp hstep
    obtain ⟨phase₁, hs₁, hlt⟩ := hs.step_left hm h₁
    exact .inr ⟨e, s₁, _, hm, h₁, hn ▸ hlt, phase₁, hs₁, rfl⟩

end State

end Lodging.Sync
