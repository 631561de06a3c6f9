import Lodging.Proofs.Sync.Alone
import Mathlib.Algebra.Order.BigOperators.Group.List
import Mathlib.Algebra.Order.Ring.Nat

/-! # No deadlock

Nobody who has a lock waits for one, or is about to ask for one, neither for himself nor for a part of
his work. So whoever is waited for can go on, and as long as a call is not over some call can. Every step
leaves less to be done, unless a new call comes in: the feeds that the calls under way can find are no
more than those in the store and those they bring. -/

namespace Lodging.Sync

open Calendar

/-- Whether one is the other or a part of it: a feed of its batch. -/
def Party.Joins (o o' : Party) : Prop :=
  o.call = o'.call ∧ (o.slot = o'.slot ∨ o.slot = none ∨ o'.slot = none)

def Request.brings : Request → Nat
  | setFeeds _ urls => urls.length
  | refresh _ => 0

def Call.mayAdd (k : Call) : Nat :=
  match k.phase with
  | .waiting => k.request.brings
  | _ => 0

/-- Whether the event carries on with a call, and the store answers as in the outage. -/
def Event.CarriesOn (down : Outage) : Event → Prop
  | .submit _ | .receive .. | .drop _ => False
  | .list _ down' | .recheck _ _ down' | .write _ _ down' => down' = down
  | .send .. | .lineUp .. | .turn _ => True

namespace State

variable {size : Nat} {s s' : State} {e : Event}

def Waits (s : State) (o : Party) : Prop := s.locks.asked? o ≠ none ∧ s.locks.holds o = false

/-- Whether the next thing that a party does is to ask for a lock. -/
def Asks (s : State) (o : Party) : Prop :=
  ∃ i, o.slot = some i ∧ (s.lineUp? o.call i).isSome = true

def Answered (s : State) : Prop :=
  ∀ k ∈ s.calls, ∀ p ∈ k.pass?, ∀ slot ∈ p.batch, slot.stage ≠ .fetching

instance (s : State) : Decidable s.Answered :=
  inferInstanceAs (Decidable (∀ k ∈ s.calls, ∀ p ∈ k.pass?, ∀ slot ∈ p.batch, slot.stage ≠ .fetching))

/-! ## Who has a lock does not wait -/

theorem slot_of_lineUp? {c i : Nat} (h : (s.lineUp? c i).isSome = true) :
    ∃ r feeds p feed ps, s.calls[c]? = some ⟨r, .passing feeds p⟩ ∧
      p.batch[i]? = some ⟨feed, .fetched ps⟩ ∧ p.guarded = true := by
  unfold lineUp? at h
  split at h
  · next p feed ps hslot =>
    obtain ⟨r, feeds, hc, hb⟩ := slot?_eq_some hslot
    split at h
    · next hg => exact ⟨r, feeds, p, feed, ps, hc, hb, hg⟩
    · cases h
  · cases h

/-- A call that has a lock of its own has no feeds that ask for one. -/
theorem Orderly.not_waits_of_call (hs : s.Orderly) {c : Nat} (hh : s.locks.holds ⟨c, none⟩ = true)
    (j : Option Nat) : ¬ s.Waits ⟨c, j⟩ ∧ ¬ s.Asks ⟨c, j⟩ := by
  obtain ⟨l, hl⟩ := hs.wants?_of_holds hh
  obtain ⟨⟨r, phase⟩, hc, hw⟩ := Option.bind_eq_some_iff.mp hl
  have hreg := hs.regular c _ hc
  have hr : r.guarded = false := by
    cases phase with
    | waiting | passing =>
      have hr : r.listing? = some l := hw
      simp [Request.guarded, hr]
    | finished | dropped => cases hw
  constructor
  · rintro ⟨hasked, hholds⟩
    rw [hs.tickets] at hasked
    cases j with
    | none => rw [hh] at hholds; cases hholds
    | some i =>
      refine hasked ?_
      rw [wants?, hc]
      cases phase with
      | passing feeds p => exact Pass.wants?_eq_none ((hreg.pass feeds p rfl).unguarded hr) i
      | _ => rfl
  · rintro ⟨i, -, h⟩
    obtain ⟨r', feeds, p, feed, ps, hc', -, hg⟩ := slot_of_lineUp? h
    cases Option.some.inj (hc.symm.trans hc')
    rw [(hreg.pass feeds p rfl).guarded_eq, hr] at hg
    cases hg

/-- Nor does a call wait for a lock when one of its feeds has one, and the feed asks for no other. -/
theorem Orderly.not_waits_of_slot (hs : s.Orderly) {c i : Nat}
    (hh : s.locks.holds ⟨c, some i⟩ = true) {j : Option Nat} (hj : j = some i ∨ j = none) :
    ¬ s.Waits ⟨c, j⟩ ∧ ¬ s.Asks ⟨c, j⟩ := by
  obtain ⟨l, hl⟩ := hs.wants?_of_holds hh
  obtain ⟨⟨r, phase⟩, hc, hw⟩ := Option.bind_eq_some_iff.mp hl
  cases phase with
  | passing feeds p =>
    obtain ⟨slot, hb, hst⟩ := Option.bind_eq_some_iff.mp hw
    obtain ⟨hwant, -⟩ := Option.ite_none_right_eq_some.mp hst
    have hp := (hs.regular c _ hc).pass feeds p rfl
    have hg := hp.guarded_of_wantsLock (List.mem_of_getElem? hb) hwant
    have hr : r.listing? = none := by simpa [Request.guarded] using hg
    rcases hj with rfl | rfl
    · refine ⟨fun h => ?_, ?_⟩
      · exact Bool.false_ne_true (h.2.symm.trans hh)
      · rintro ⟨i', hi, h⟩
        obtain rfl := Option.some.inj hi
        obtain ⟨r', feeds', p', feed, ps, hc', hb', -⟩ := slot_of_lineUp? h
        cases Option.some.inj (hc.symm.trans hc')
        rw [Option.some.inj (hb.symm.trans hb')] at hwant
        cases hwant
    · constructor
      · intro h
        refine h.1 ?_
        rw [hs.tickets, wants?, hc]
        exact hr
      · rintro ⟨i', hi, -⟩
        cases hi
  | _ => cases hw

/-! ## Every step leaves less to be done -/

/-- As many feeds can be found by the calls under way. -/
def room (s : State) : Nat := s.store.feeds.length + (s.calls.map Call.mayAdd).sum

/-- The steps that are left at most if no other call comes in. -/
def left (s : State) : Nat := (s.calls.map (·.phase.left s.room)).sum

theorem sum_set {α : Type} {l : List α} {i : Nat} {a : α} (h : l[i]? = some a) (f : α → Nat) (b : α) :
    ((l.set i b).map f).sum + f a = (l.map f).sum + f b := by
  induction l generalizing i with
  | nil => cases h
  | cons c l ih =>
    cases i with
    | zero =>
      obtain rfl := Option.some.inj h
      simp only [List.set_cons_zero, List.map_cons, List.sum_cons]
      omega
    | succ i =>
      have := ih h
      simp only [List.set_cons_succ, List.map_cons, List.sum_cons]
      omega

theorem left_mono (phase : Phase) {n m : Nat} (h : n ≤ m) : phase.left n ≤ phase.left m := by
  cases phase with
  | waiting => simp only [Phase.left]; omega
  | _ => exact Nat.le_refl _

/-- A call that has less to do, and does not add more than it was to, leaves less to be done. -/
theorem left_set {c : Nat} {k k' : Call} {store : Store} {locks : Locks Party}
    (hc : s.calls[c]? = some k)
    (hroom : store.feeds.length + k'.mayAdd ≤ s.store.feeds.length + k.mayAdd)
    (hleft : ∀ n, s.store.feeds.length + k.mayAdd ≤ n → k'.phase.left n < k.phase.left n) :
    left ⟨store, locks, s.calls.set c k'⟩ < s.left := by
  have hadd := sum_set hc Call.mayAdd k'
  have hle : room ⟨store, locks, s.calls.set c k'⟩ ≤ s.room := by
    simp only [room]
    omega
  have hmem : k.mayAdd ≤ (s.calls.map Call.mayAdd).sum :=
    List.single_le_sum (by simp) _ (List.mem_map_of_mem (List.mem_of_getElem? hc))
  have hlt := hleft s.room (by simp only [room]; omega)
  have hsum := sum_set hc (·.phase.left s.room) k'
  calc left ⟨store, locks, s.calls.set c k'⟩
      ≤ ((s.calls.set c k').map (·.phase.left s.room)).sum :=
        List.sum_le_sum fun k _ => left_mono k.phase hle
    _ < s.left := by
        rw [left]
        omega

/-- A call finds no more feeds than there are and than it brings. -/
theorem found_le {store store' : Store} {down : Outage} {r : Request} {feeds : List Feed}
    (h : listFeeds store down r = .ok (store', feeds)) :
    store'.feeds.length ≤ store.feeds.length + r.brings ∧
      feeds.length ≤ store.feeds.length + r.brings := by
  rcases listFeeds_eq_ok h with ⟨listing, urls, rfl, -, he⟩ | ⟨listing, rfl, -, rfl, rfl⟩
  · obtain ⟨rfl, rfl⟩ := Prod.mk.inj he
    have hurls : (distinct urls).length ≤ urls.length :=
      (List.subperm_of_subset (nodup_distinct urls) fun u hu => mem_distinct.mp hu).length_le
    have hkept := List.length_filter_le (·.listing != listing) store.feeds
    simp only [Store.newFeeds, Request.brings, List.length_append,
      List.length_map, List.length_zipIdx]
    omega
  · exact ⟨Nat.le_add_right _ _,
      Nat.le_add_right_of_le (store'.findFeeds_sublist listing).length_le⟩

theorem Move.left_lt (hs : s.Orderly) (h : Move size s e s') (he : ∀ r, e ≠ .submit r) :
    s'.left < s.left := by
  cases h with
  | refuse _ | join _ _ | enter _ _ => exact absurd rfl (he _)
  | @list c r down store feeds hc hmay hlist =>
    obtain ⟨hstore, hfeeds⟩ := found_le hlist
    refine left_set hc hstore fun n hn => ?_
    have := Pass.left_start r.guarded size feeds
    have hn : s.store.feeds.length + r.brings ≤ n := hn
    simp only [Phase.left]
    omega
  | listFail hc hmay hlist =>
    exact left_set hc (by simp [Call.mayAdd]) fun n _ => by simp [Phase.left]
  | advance hc hb ha =>
    refine left_set hc ?_ fun n _ => Pass.left_setStage hb ha.left_lt
    exact Nat.le_of_eq (congrArg List.length ha.feeds_eq.1)
  | @next c r feeds p written hc hw hr =>
    refine left_set hc (Nat.le_refl _) fun n _ => ?_
    have hp := (hs.regular c _ hc).pass feeds p rfl
    have := Pass.left_load p.guarded hp.size_pos (p.results ++ written) hr
    simp only [Phase.left, Pass.next, Pass.left] at this ⊢
    omega
  | finish hc hw hr =>
    refine left_set hc (Nat.le_refl _) fun n _ => ?_
    simp [Phase.left, Pass.left]
  | @drop c k hc hk =>
    obtain ⟨r, phase⟩ := k
    refine left_set hc (by simp [Call.mayAdd]) fun n _ => ?_
    cases phase with
    | waiting => simp [Phase.left]
    | passing feeds p => simp [Phase.left, Pass.left]
    | finished o => cases hk
    | dropped => cases hk

theorem run_length_le {es : List Event} (hs : s.Orderly) (hes : ∀ r, .submit r ∉ es)
    (h : s.run? size es = some s') : es.length + s'.left ≤ s.left := by
  induction es generalizing s with
  | nil =>
    obtain rfl := Option.some.inj h
    simp
  | cons e es ih =>
    obtain ⟨s₁, h₁, h₂⟩ := Option.bind_eq_some_iff.mp h
    have hm := step?_move h₁
    have hlt := hm.left_lt hs fun r he => hes r (he ▸ List.mem_cons_self)
    have := ih (hs.move hm) (fun r hr => hes r (List.mem_cons_of_mem _ hr)) h₂
    rw [List.length_cons]
    omega

theorem Answered.offers (hs : s.Answered) (down : Outage) : s.Offers (Event.CarriesOn down) where
  list := fun _ => ⟨down, rfl⟩
  send := fun _ _ => trivial
  receive := by
    intro c i p feed hslot
    obtain ⟨r, feeds, hc, hb⟩ := slot?_eq_some hslot
    exact absurd rfl (hs _ (List.mem_of_getElem? hc) p rfl _ (List.mem_of_getElem? hb))
  lineUp := fun _ _ => trivial
  recheck := fun _ _ => ⟨down, rfl⟩
  write := fun _ _ _ _ => ⟨down, rfl⟩
  turn := fun _ => trivial

/-- Whatever calls are made and whatever they do, whoever has a lock does not wait for one and is not
about to ask for one, with all that belongs to him; once all downloads are answered some call that is
not over can go on, whether the store fails or not; and the calls under way go on for so long only, in
whatever order they do. -/
theorem no_deadlock {store : Store} {es : List Event} (h : (quiet store).run? size es = some s) :
    (∀ o o', s.locks.holds o = true → o.Joins o' → ¬ s.Waits o' ∧ ¬ s.Asks o') ∧
    (s.Answered → ∀ k ∈ s.calls, k.isOver = false → ∀ down,
      ∃ e, Event.CarriesOn down e ∧ (s.step? size e).isSome = true) ∧
    ∃ n, ∀ fs s', (∀ r, .submit r ∉ fs) → s.run? size fs = some s' → fs.length ≤ n := by
  have hs : s.Orderly := Orderly.run (orderly_of_calls_nil rfl rfl) h
  refine ⟨fun o o' hh hj => ?_, fun hanswered k hk hover down => ?_, s.left,
    fun fs s' hfs hrun => ?_⟩
  · obtain ⟨c, j⟩ := o
    obtain ⟨c', j'⟩ := o'
    obtain ⟨rfl, hj⟩ : c = c' ∧ _ := hj
    cases j with
    | none => exact hs.not_waits_of_call hh j'
    | some i => exact hs.not_waits_of_slot hh (by simpa [eq_comm] using hj)
  · obtain ⟨c, hc⟩ := List.mem_iff_getElem?.mp hk
    exact (hanswered.offers down).can_go_on hs hc hover
  · have := run_length_le hs hfs hrun
    omega

def twoFeeds : Store := ⟨[⟨0, 1, "http://a"⟩, ⟨1, 1, "http://b"⟩], [], 2⟩

/-- Both of them are in one batch, and want the lock that a call on the listing wants too. -/
def jam : List Event :=
  [.submit (.refresh none), .list 0 [], .send 0 0, .send 0 1, .receive 0 1 (.error (.fetch "timeout")),
    .receive 0 0 (.ok "BEGIN:VCALENDAR"), .lineUp 0 1, .lineUp 0 0, .submit (.refresh (some 1))]

theorem jam_no_deadlock : ∃ s, (quiet twoFeeds).run? 2 jam = some s ∧
    s.locks.holds ⟨0, some 1⟩ = true ∧ s.Waits ⟨0, some 0⟩ ∧ s.Waits ⟨1, none⟩ ∧
    ¬ s.Waits ⟨0, none⟩ ∧ ∃ e, Event.CarriesOn [.findFeeds] e ∧ (s.step? 2 e).isSome = true := by
  have h : ((quiet twoFeeds).run? 2 jam).any (fun s =>
      s.locks.holds ⟨0, some 1⟩ = true ∧
        (s.locks.asked? ⟨0, some 0⟩ ≠ none ∧ s.locks.holds ⟨0, some 0⟩ = false) ∧
        (s.locks.asked? ⟨1, none⟩ ≠ none ∧ s.locks.holds ⟨1, none⟩ = false) ∧
        s.Answered ∧ ∃ k ∈ s.calls, k.isOver = false) = true := by
    decide
  obtain ⟨s, hs, h⟩ := (Option.any_eq_true _ _).mp h
  obtain ⟨hholds, hfeed, hcall, hanswered, k, hk, hover⟩ := of_decide_eq_true h
  obtain ⟨hwaits, hgoes, -⟩ := no_deadlock hs
  exact ⟨s, hs, hholds, hfeed, hcall, (hwaits ⟨0, some 1⟩ ⟨0, none⟩ hholds ⟨rfl, .inr (.inr rfl)⟩).1,
    hgoes hanswered k hk hover _⟩

end State

end Lodging.Sync
