import Lodging.Proofs.Calendar.Store
import Lodging.Proofs.Sync.Discipline

/-! # Work on rows that are there

The feeds of a call are rows that the store has or had. While a call works on a listing under its lock
they are exactly the rows of the listing, and a feed of a guarded pass that was looked up again has its
row until it is done: only the call that holds the lock of a listing changes its feeds. So nothing is
ever written for a row that is gone. -/

namespace Lodging.Sync

open Calendar

theorem Request.listing?_of_not_guarded {r : Request} (h : r.guarded = false) :
    ∃ listing, r.listing? = some listing :=
  Option.isSome_iff_exists.mp (by simpa [Request.guarded] using h)

structure Call.Grounded (store : Store) (k : Call) : Prop where
  knows : ∀ feeds p, k.phase = .passing feeds p → ∀ f ∈ feeds, store.Knows f
  own : ∀ feeds p listing, k.phase = .passing feeds p → k.request.listing? = some listing →
    store.findFeeds (some listing) = feeds
  cleared : ∀ feeds p slot, k.phase = .passing feeds p → slot ∈ p.batch →
    slot.stage.isCleared = true → slot.feed ∈ store.feeds

theorem Call.grounded_of_not_passing {store : Store} {k : Call}
    (h : ∀ feeds p, k.phase ≠ .passing feeds p) : k.Grounded store :=
  ⟨fun _ _ he => absurd he (h _ _), fun _ _ _ he => absurd he (h _ _),
    fun _ _ _ he => absurd he (h _ _)⟩

/-- A call is grounded in every later store with the same feeds. -/
theorem Call.Grounded.of_feeds_eq {store store' : Store} {k : Call} (hk : k.Grounded store)
    (hfeeds : store'.feeds = store.feeds) (hfresh : store.fresh ≤ store'.fresh) :
    k.Grounded store' where
  knows := fun _ _ h f hf =>
    have := hk.knows _ _ h f hf
    ⟨Nat.lt_of_lt_of_le this.1 hfresh, hfeeds ▸ this.2⟩
  own := fun feeds p listing h hl => by
    rw [← hk.own feeds p listing h hl]
    simp [Store.findFeeds, hfeeds]
  cleared := fun _ _ _ h hslot hcl => hfeeds ▸ hk.cleared _ _ _ h hslot hcl

theorem Stage.wantsLock_of_isCleared {st : Stage} (h : st.isCleared = true) :
    st.wantsLock = true := by
  cases st with
  | cleared ps => rfl
  | _ => cases h

theorem Pass.Regular.feed_mem {guarded : Bool} {feeds : List Feed} {p : Pass}
    (hp : p.Regular guarded feeds) {slot : Slot} (hs : slot ∈ p.batch) : slot.feed ∈ feeds := by
  refine List.mem_of_mem_drop (i := p.results.length) ?_
  rw [hp.drop_eq]
  exact List.mem_append_left _ (List.mem_map_of_mem hs)

namespace State

structure Grounded (s : State) : Prop where
  numbered : s.store.Numbered
  calls : s.EveryCall fun _ k => k.Grounded s.store

theorem grounded_of_calls_nil {s : State} (hn : s.store.Numbered) (hc : s.calls = []) :
    s.Grounded := ⟨hn, fun c k h => by simp [hc] at h⟩

/-! ## The store after a listing -/

/-- Listing feeds either replaces those of one listing or leaves the store alone. -/
theorem listFeeds_eq_ok {store store' : Store} {down : Outage} {r : Request} {feeds : List Feed}
    (h : listFeeds store down r = .ok (store', feeds)) :
    (∃ listing urls, r = .setFeeds listing urls ∧ Access.replaceFeeds ∉ down ∧
      store.replaceFeeds listing (distinct urls) = (store', feeds)) ∨
    (∃ listing, r = .refresh listing ∧ Access.findFeeds ∉ down ∧ store' = store ∧
      feeds = store.findFeeds listing) := by
  cases r with
  | setFeeds listing urls =>
    obtain ⟨hd, he⟩ := ask_eq_ok_iff.mp h
    exact .inl ⟨listing, urls, rfl, hd, he⟩
  | refresh listing =>
    obtain ⟨hd, he⟩ := ask_eq_ok_iff.mp h
    simp only [Prod.mk.injEq] at he
    exact .inr ⟨listing, rfl, hd, he.1.symm, he.2.symm⟩

/-- A feed that was found again is in the store. -/
theorem mem_of_isRegistered {store : Store} {feed : Feed} (hk : store.Knows feed)
    (h : isRegistered store feed = true) : feed ∈ store.feeds := by
  obtain ⟨g, hg, hid⟩ := List.any_eq_true.mp h
  have hg := Store.mem_feeds_of_mem_findFeeds hg
  exact hk.2 g hg (by simpa using hid) ▸ hg

/-- Moving one feed on changes no row of a feed. -/
theorem Advance.feeds_eq {s : State} {c i : Nat} {p : Pass} {feed : Feed} {e : Event}
    {st st' : Stage} {store : Store} {locks : Locks Party}
    (h : s.Advance c i p feed e st st' store locks) :
    store.feeds = s.store.feeds ∧ s.store.fresh ≤ store.fresh := by
  cases h with
  | write _ _ => exact ⟨rfl, Nat.le_add_right _ _⟩
  | _ => exact ⟨rfl, Nat.le_refl _⟩

/-! ## One holder, one listing -/

/-- While a call lists the feeds of a listing under its lock, nobody else works on that listing. -/
theorem Orderly.listing_ne {s : State} (hs : s.Orderly) {c : Nat} {r : Request} {listing : Int}
    (hc : s.calls[c]? = some ⟨r, .waiting⟩) (hm : s.mayList c r = true)
    (hl : r.listing? = some listing) {o : Party} (ho : s.isInside o = true) :
    s.wants? o ≠ some listing := by
  intro hw
  have hh : s.locks.holds ⟨c, none⟩ = true := by simpa [mayList, Request.guarded, hl] using hm
  have hask : s.locks.asked? ⟨c, none⟩ = some listing := by rw [hs.asked?_eq hc]; exact hl
  have he := hs.locks.holds_unique (hs.inside o ho) hh (by rw [hs.tickets, hw]) hask
  -- the call itself waits still
  subst he
  simp [isInside, hc, Call.isInside] at ho

/-! ## The moves -/

/-- The store stays and a call comes in. -/
theorem Grounded.append {s : State} (hs : s.Grounded) {locks : Locks Party} {k : Call}
    (hk : ∀ feeds p, k.phase ≠ .passing feeds p) :
    Grounded ⟨s.store, locks, s.calls ++ [k]⟩ :=
  ⟨hs.numbered, hs.calls.append (fun _ _ h => h) (Call.grounded_of_not_passing hk)⟩

/-- The store stays and a call becomes another one. -/
theorem Grounded.set {s : State} (hs : s.Grounded) {locks : Locks Party} {c : Nat} {k₀ k : Call}
    (hc : s.calls[c]? = some k₀) (hk : k.Grounded s.store) :
    Grounded ⟨s.store, locks, s.calls.set c k⟩ :=
  ⟨hs.numbered, hs.calls.set hc (fun _ _ _ _ h => h) hk⟩

/-- A pass that begins or goes on to its next batch has looked nothing up again. -/
theorem not_cleared_of_load {guarded : Bool} {size : Nat} {results : List (List Block)}
    {feeds : List Feed} {slot : Slot} (h : slot ∈ (Pass.load guarded size results feeds).batch) :
    slot.stage.isCleared = false := by
  rw [Pass.load_idle h]
  rfl

/-- The rows of a listing are replaced by a call that holds its lock: every other call works on rows of
other listings, and these stay. -/
theorem Grounded.move_replace {s : State} (hs : s.Grounded) (ho : s.Orderly) {size c : Nat}
    {listing : Int} {submitted urls : List String}
    (hc : s.calls[c]? = some ⟨.setFeeds listing submitted, .waiting⟩)
    (hm : s.mayList c (.setFeeds listing submitted) = true) :
    Grounded ⟨(s.store.replaceFeeds listing urls).1, s.locks, s.calls.set c
      ⟨.setFeeds listing submitted, .passing (s.store.replaceFeeds listing urls).2
        (.start false size (s.store.replaceFeeds listing urls).2)⟩⟩ := by
  refine ⟨hs.numbered.replaceFeeds _ _, hs.calls.set hc (fun c' k' _ hc' hk => ?_) ?_⟩
  · -- no other call works on this listing
    have hne : ∀ j other, k'.isInside j = true → k'.wants? j = some other → other ≠ listing := by
      rintro j other hin hw rfl
      exact ho.listing_ne hc hm rfl (o := ⟨c', j⟩) (by simpa [isInside, hc'] using hin)
        (by simpa [wants?, hc'] using hw)
    refine ⟨fun _ _ h f hf => (hk.knows _ _ h f hf).replaceFeeds _ _,
      fun feeds p other h hl => ?_, fun feeds p slot h hslot hcl => ?_⟩
    · rw [← hk.own feeds p other h hl]
      refine Store.findFeeds_replaceFeeds_of_ne _ (hne none other ?_ ?_) _
      · simp [Call.isInside, h, hl]
      · simp [Call.wants?, h, hl]
    · obtain ⟨i, hi⟩ := List.mem_iff_getElem?.mp hslot
      refine Store.mem_feeds_replaceFeeds.mpr (.inl ⟨hk.cleared _ _ slot h hslot hcl, ?_⟩)
      refine hne (some i) slot.feed.listing ?_ ?_
      · simp [Call.isInside, h, hi, hcl]
      · simp [Call.wants?, Pass.wants?, h, hi, Stage.wantsLock_of_isCleared hcl]
  · -- the call itself works on the new rows
    refine ⟨fun _ _ h f hf => ?_, fun _ _ _ h hl => ?_, fun _ _ slot h hslot hcl => ?_⟩
    · cases h
      exact hs.numbered.replaceFeeds _ _ f (Store.mem_feeds_replaceFeeds.mpr (.inr hf))
    · cases h
      cases hl
      exact Store.findFeeds_replaceFeeds _ _ _
    · cases h
      rw [not_cleared_of_load hslot] at hcl
      cases hcl

theorem Grounded.move_list {s : State} (hs : s.Grounded) (ho : s.Orderly) {size c : Nat}
    {r : Request} {down : Outage} {store : Store} {feeds : List Feed}
    (hc : s.calls[c]? = some ⟨r, .waiting⟩) (hm : s.mayList c r = true)
    (hlist : listFeeds s.store down r = .ok (store, feeds)) :
    Grounded ⟨store, s.locks,
      s.calls.set c ⟨r, .passing feeds (.start r.guarded size feeds)⟩⟩ := by
  rcases listFeeds_eq_ok hlist with ⟨listing, urls, rfl, -, he⟩ | ⟨listing, rfl, -, rfl, rfl⟩
  · obtain ⟨rfl, rfl⟩ := Prod.mk.inj he
    exact hs.move_replace ho hc hm
  · refine hs.set hc ⟨fun _ _ h f hf => ?_, fun _ _ other h hl => ?_,
      fun _ _ slot h hslot hcl => ?_⟩
    · cases h
      exact hs.numbered f (Store.mem_feeds_of_mem_findFeeds hf)
    · cases h
      cases hl
      rfl
    · cases h
      rw [not_cleared_of_load hslot] at hcl
      cases hcl

theorem Grounded.move_advance {s : State} (hs : s.Grounded) (ho : s.Orderly) {e : Event}
    {c i : Nat} {r : Request} {feeds : List Feed} {p : Pass} {feed : Feed} {st st' : Stage}
    {store : Store} {locks : Locks Party} (hc : s.calls[c]? = some ⟨r, .passing feeds p⟩)
    (hb : p.batch[i]? = some ⟨feed, st⟩) (ha : s.Advance c i p feed e st st' store locks) :
    Grounded ⟨store, locks, s.calls.set c ⟨r, .passing feeds (p.setStage i st')⟩⟩ := by
  obtain ⟨hfeeds, hfresh⟩ := ha.feeds_eq
  have hknows : ∀ f, s.store.Knows f → store.Knows f := fun f h =>
    ⟨Nat.lt_of_lt_of_le h.1 hfresh, hfeeds ▸ h.2⟩
  have hk := hs.calls c _ hc
  refine ⟨fun f hf => hknows f (hs.numbered f (hfeeds ▸ hf)),
    hs.calls.set hc (fun _ _ _ _ h => h.of_feeds_eq hfeeds hfresh) ?_⟩
  refine Call.Grounded.of_feeds_eq ⟨fun _ _ h f hf => ?_, fun _ _ other h hl => ?_,
    fun _ _ slot h hslot hcl => ?_⟩ hfeeds hfresh
  · cases h
    exact hk.knows _ _ rfl f hf
  · cases h
    exact hk.own _ _ other rfl hl
  · cases h
    rcases Pass.mem_setStage hb hslot with rfl | hslot
    · have hfeed : feed ∈ feeds :=
        ((ho.regular c _ hc).pass _ _ rfl).feed_mem (List.mem_of_getElem? hb)
      cases ha with
      | clear _ hok =>
        exact mem_of_isRegistered (hk.knows _ _ rfl feed hfeed) (ask_eq_ok_iff.mp hok).2
      | _ => cases hcl
    · exact hk.cleared _ _ slot rfl hslot hcl

theorem Grounded.move {size : Nat} {s s' : State} {e : Event} (hs : s.Grounded) (ho : s.Orderly)
    (h : Move size s e s') : s'.Grounded := by
  cases h with
  | refuse _ => exact hs.append fun _ _ h => by cases h
  | join _ _ => exact hs.append fun _ _ h => by cases h
  | enter _ _ => exact hs.append fun _ _ h => by cases h
  | list hc hm hlist => exact hs.move_list ho hc hm hlist
  | listFail hc _ _ => exact hs.set hc (Call.grounded_of_not_passing fun _ _ h => by cases h)
  | advance hc hb ha => exact hs.move_advance ho hc hb ha
  | @next c r feeds p written hc hw _ =>
    have hk := hs.calls c _ hc
    refine hs.set hc ⟨fun _ _ h f hf => ?_, fun _ _ other h hl => ?_,
      fun _ _ slot h hslot hcl => ?_⟩
    · cases h
      exact hk.knows _ _ rfl f hf
    · cases h
      exact hk.own _ _ other rfl hl
    · cases h
      rw [not_cleared_of_load hslot] at hcl
      cases hcl
  | finish hc _ _ => exact hs.set hc (Call.grounded_of_not_passing fun _ _ h => by cases h)
  | drop hc _ => exact hs.set hc (Call.grounded_of_not_passing fun _ _ h => by cases h)

theorem Grounded.run {size : Nat} {s s' : State} {es : List Event} (hs : s.Grounded)
    (ho : s.Orderly) (h : s.run? size es = some s') : s'.Orderly ∧ s'.Grounded :=
  run?_induction (motive := fun s => s.Orderly ∧ s.Grounded)
    (fun ⟨ho, hs⟩ h => ⟨ho.move (step?_move h), hs.move ho (step?_move h)⟩) ⟨ho, hs⟩ h

/-- A store on which no call was made yet. -/
def quiet (store : Store) : State := ⟨store, .empty, []⟩

theorem quiet_run {size : Nat} {store : Store} {s : State} {es : List Event}
    (hn : store.Numbered) (h : (quiet store).run? size es = some s) : s.Orderly ∧ s.Grounded :=
  Grounded.run (grounded_of_calls_nil hn rfl) (orderly_of_calls_nil rfl rfl) h

/-! ## What is written for -/

/-- A feed that is about to be written has its row in the store. -/
theorem Grounded.mem_of_toWrite? {s : State} (hs : s.Grounded) (ho : s.Orderly) {c i : Nat}
    {r : Request} {feeds : List Feed} {p : Pass} {feed : Feed} {st : Stage} {ps : List Period}
    (hc : s.calls[c]? = some ⟨r, .passing feeds p⟩) (hb : p.batch[i]? = some ⟨feed, st⟩)
    (hw : toWrite? p st = some ps) : feed ∈ s.store.feeds := by
  have hk := hs.calls c _ hc
  have hp := (ho.regular c _ hc).pass feeds p rfl
  have hmem := List.mem_of_getElem? hb
  unfold toWrite? at hw
  split at hw
  · -- the call holds the lock of its listing
    have hg : r.guarded = false := by
      rw [← hp.guarded_eq]
      split at hw
      · cases hw
      · next h => simpa using h
    obtain ⟨listing, hl⟩ := Request.listing?_of_not_guarded hg
    have hfeed : feed ∈ feeds := hp.feed_mem hmem
    rw [← hk.own feeds p listing rfl hl] at hfeed
    exact Store.mem_feeds_of_mem_findFeeds hfeed
  · exact hk.cleared feeds p ⟨feed, _⟩ rfl hmem rfl
  · cases hw

end State

end Lodging.Sync
