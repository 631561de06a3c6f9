import Lodging.Proofs.Sync.Provenance
import Lodging.Proofs.Sync.Alone
import Mathlib.Data.List.Forall2

/-! # What a refresh leaves behind

A refresh that runs alone does to its feeds what reading them one after another would do: for every feed
there is one entry, and blocks with the periods of its document take the place of the old ones, unless
the store fails to write them. In which order the feeds of a batch get ready does not show, since each
of them writes the blocks of a pair of its own (`Midway`), so neither the size of batches nor the time
that downloads take changes a period. -/

namespace Lodging.Calendar

def Store.ranges (s : Store) (listing : Int) (url : String) : List Period :=
  (s.blocksOf listing url).map (·.period)

end Lodging.Calendar

namespace Lodging.Sync

open Calendar

namespace Conditions

/-- The periods that a feed has in what a refresh returns. -/
def reading (w : Conditions) (feed : Feed) : List Period :=
  if w.lost feed.listing feed.url then [] else State.periodsOf (w.docs feed.url)

def renews (w : Conditions) (feeds : List Feed) (listing : Int) (url : String) : Bool :=
  !w.lost listing url && feeds.any fun f => f.listing == listing && f.url == url

/-- What a feed that is done returns and has in the store: nothing and what it had before if its write
fails, else the same blocks, with the periods of its document. -/
def Settled (w : Conditions) (before after : Store) (feed : Feed) (bs : List Block) : Prop :=
  if w.lost feed.listing feed.url then
    bs = [] ∧ after.blocksOf feed.listing feed.url = before.blocksOf feed.listing feed.url
  else
    bs = after.blocksOf feed.listing feed.url ∧
      bs.map (·.period) = State.periodsOf (w.docs feed.url)

variable {w : Conditions} {feeds : List Feed}

theorem renews_of_mem {feed : Feed} (h : feed ∈ feeds) :
    w.renews feeds feed.listing feed.url = !w.lost feed.listing feed.url := by
  have hany : (feeds.any fun f => f.listing == feed.listing && f.url == feed.url) = true :=
    List.any_eq_true.mpr ⟨feed, h, by simp⟩
  rw [renews, hany, Bool.and_true]

theorem renews_eq_true {listing : Int} {url : String} (h : w.renews feeds listing url = true) :
    w.lost listing url = false ∧ ∃ f ∈ feeds, f.listing = listing ∧ f.url = url := by
  simpa [renews] using h

/-- If more writes fail no other pair is replaced. -/
theorem renews_of_lost {w' : Conditions}
    (hlost : ∀ l url, w.lost l url = true → w'.lost l url = true) {listing : Int} {url : String}
    (h : w'.renews feeds listing url = true) : w.renews feeds listing url = true := by
  obtain ⟨hw', feed, hmem, rfl, rfl⟩ := renews_eq_true h
  have hw : w.lost feed.listing feed.url = false := by
    refine Bool.eq_false_iff.mpr fun hw => ?_
    rw [hlost _ _ hw] at hw'
    cases hw'
  rw [renews_of_mem hmem, hw]
  rfl

/-- A pair is replaced with all feeds if it is with the feeds of its listing. -/
theorem renews_findFeeds (store : Store) (listing : Int) (url : String) :
    w.renews (store.findFeeds (some listing)) listing url =
      w.renews (store.findFeeds none) listing url := by
  have hany : ((store.findFeeds (some listing)).any
      fun f => f.listing == listing && f.url == url) =
      (store.findFeeds none).any fun f => f.listing == listing && f.url == url := by
    simp only [Store.findFeeds, List.any_filter]
    refine congrArg _ (funext fun f => ?_)
    cases f.listing == listing <;> rfl
  rw [renews, renews, hany]

end Conditions

/-- The feeds, and all blocks that a refresh of these feeds does not replace, are in their rows. -/
structure Keeps (w : Conditions) (feeds : List Feed) (before after : Store) : Prop where
  feeds_eq : after.feeds = before.feeds
  kept : (after.blocks.filter fun b => !w.renews feeds b.listing b.url) =
    before.blocks.filter fun b => !w.renews feeds b.listing b.url

/-- What there is after a refresh of the feeds: for each of them, in their order, one settled entry. -/
structure Refreshed (w : Conditions) (feeds : List Feed) (before after : Store)
    (bs : List (List Block)) : Prop extends Keeps w feeds before after where
  entries : List.Forall₂ (w.Settled before after) feeds bs

/-- What there is while the feeds have come to these stages. -/
structure Midway (w : Conditions) (feeds : List Feed) (before after : Store)
    (stageAt : Nat → Stage) : Prop extends Keeps w feeds before after where
  read : ∀ (n : Nat) (feed : Feed), feeds[n]? = some feed → ∀ ps,
    (stageAt n).periods? = some ps → ps = State.periodsOf (w.docs feed.url)
  settled : ∀ (n : Nat) (feed : Feed), feeds[n]? = some feed → ∀ bs,
    stageAt n = .done bs → w.Settled before after feed bs

variable {w : Conditions} {feeds : List Feed} {before after : Store}

theorem Keeps.blocksOf_eq (h : Keeps w feeds before after) {listing : Int} {url : String}
    (hpair : w.renews feeds listing url = false) :
    after.blocksOf listing url = before.blocksOf listing url := by
  have hsub : ∀ s : Store, s.blocksOf listing url =
      (s.blocks.filter fun b => !w.renews feeds b.listing b.url).filter
        fun b => b.listing == listing && b.url == url := by
    intro s
    rw [Store.blocksOf, List.filter_filter]
    refine List.filter_congr fun b _ => ?_
    by_cases hl : b.listing = listing <;> by_cases hu : b.url = url <;> simp [hl, hu, hpair]
  rw [hsub, h.kept, ← hsub]

theorem Keeps.distinct (h : Keeps w feeds before after) (hd : before.Distinct) :
    after.Distinct := by
  intro l
  rw [Store.findFeeds_congr h.feeds_eq]
  exact hd l

theorem midway_idle : Midway w feeds before before fun _ => .idle where
  feeds_eq := rfl
  kept := rfl
  read := fun _ _ _ _ h => by cases h
  settled := fun _ _ _ _ h => by cases h

namespace Midway

variable {stageAt stageAt' : Nat → Stage} {n : Nat} {feed : Feed} {st : Stage}

/-- What is to be shown when one feed goes on. -/
theorem set (h : Midway w feeds before after stageAt) {after' : Store}
    (hstage : ∀ m, stageAt' m = if m = n then st else stageAt m) (hn : feeds[n]? = some feed)
    (hread : ∀ ps, st.periods? = some ps → ps = State.periodsOf (w.docs feed.url))
    (hdone : ∀ bs, st = .done bs → w.Settled before after' feed bs)
    (hothers : ∀ m f, m ≠ n → feeds[m]? = some f → ∀ bs,
      w.Settled before after f bs → w.Settled before after' f bs)
    (hfeeds : after'.feeds = after.feeds)
    (hkept : (after'.blocks.filter fun b => !w.renews feeds b.listing b.url) =
      after.blocks.filter fun b => !w.renews feeds b.listing b.url) :
    Midway w feeds before after' stageAt' where
  feeds_eq := hfeeds.trans h.feeds_eq
  kept := hkept.trans h.kept
  read := by
    intro m f hf ps hps
    rw [hstage] at hps
    split at hps
    · next hm =>
      obtain rfl := Option.some.inj (hf.symm.trans (hm ▸ hn))
      exact hread ps hps
    · exact h.read m f hf ps hps
  settled := by
    intro m f hf bs hbs
    rw [hstage] at hbs
    split at hbs
    · next hm =>
      obtain rfl := Option.some.inj (hf.symm.trans (hm ▸ hn))
      exact hdone bs hbs
    · next hm => exact hothers m f hm hf bs (h.settled m f hf bs hbs)

/-- A feed that goes on without a write. -/
theorem set_same (h : Midway w feeds before after stageAt)
    (hstage : ∀ m, stageAt' m = if m = n then st else stageAt m) (hn : feeds[n]? = some feed)
    (hread : ∀ ps, st.periods? = some ps → ps = State.periodsOf (w.docs feed.url))
    (hdone : ∀ bs, st = .done bs → w.Settled before after feed bs) :
    Midway w feeds before after stageAt' :=
  h.set hstage hn hread hdone (fun _ _ _ _ _ hs => hs) rfl rfl

/-- A feed that is written. No other feed has its pair. -/
theorem set_written (h : Midway w feeds before after stageAt)
    (hpairs : feeds.Pairwise fun f g => ¬ (f.listing = g.listing ∧ f.url = g.url))
    (hn : feeds[n]? = some feed) (hlost : w.lost feed.listing feed.url = false)
    (hstage : ∀ m, stageAt' m = if m = n then
      .done (after.replaceBlocks feed.listing feed.url (State.periodsOf (w.docs feed.url))).2
      else stageAt m) :
    Midway w feeds before
      (after.replaceBlocks feed.listing feed.url (State.periodsOf (w.docs feed.url))).1 stageAt' := by
  refine h.set hstage hn (fun _ hps => by cases hps) (fun bs hbs => ?_) (fun m f hm hf bs hs => ?_)
    rfl (after.filter_replaceBlocks (fun b hl hu => ?_) _)
  · cases hbs
    rw [Conditions.Settled, hlost, Store.blocksOf_replaceBlocks]
    exact ⟨rfl, Store.newBlocks_periods _ _ _ _⟩
  · have hne : ¬ (f.listing = feed.listing ∧ f.url = feed.url) := by
      obtain ⟨hi, hfi⟩ := List.getElem?_eq_some_iff.mp hf
      obtain ⟨hj, hfj⟩ := List.getElem?_eq_some_iff.mp hn
      rcases Nat.lt_or_gt_of_ne hm with hlt | hlt
      · have hp := List.pairwise_iff_getElem.mp hpairs m n hi hj hlt
        rwa [hfi, hfj] at hp
      · have hp := List.pairwise_iff_getElem.mp hpairs n m hj hi hlt
        rw [hfi, hfj] at hp
        exact fun he => hp ⟨he.1.symm, he.2.symm⟩
    rw [Conditions.Settled, Store.blocksOf_replaceBlocks_of_ne _ hne]
    exact hs
  · rw [hl, hu, Conditions.renews_of_mem (List.mem_of_getElem? hn), hlost]
    rfl

/-- A feed whose write failed. -/
theorem settled_of_lost (h : Midway w feeds before after stageAt) (hn : feeds[n]? = some feed)
    (hlost : w.lost feed.listing feed.url = true) : w.Settled before after feed [] := by
  have hrenews := w.renews_of_mem (List.mem_of_getElem? hn)
  rw [Conditions.Settled, if_pos hlost]
  exact ⟨rfl, h.blocksOf_eq (by rw [hrenews, hlost]; rfl)⟩

theorem finish {p : Pass} (h : Midway w feeds before after p.stageAt) {guarded : Bool}
    (hp : p.Regular guarded feeds) {written : List (List Block)} (hw : p.written? = some written)
    (hr : p.rest = []) : Refreshed w feeds before after (p.results ++ written) where
  toKeeps := h.toKeeps
  entries := by
    refine List.forall₂_iff_get.mpr ⟨(hp.length_of_rest_nil hw hr).symm, fun n hn hn' => ?_⟩
    refine h.settled n _ (by simp [hn]) _ ?_
    rw [Pass.stageAt_of_written? hw, List.getElem?_eq_getElem hn']
    rfl

end Midway

/-! ## The periods after a refresh -/

theorem Conditions.Settled.reading_eq {feed : Feed} {bs : List Block}
    (h : w.Settled before after feed bs) : bs.map (·.period) = w.reading feed := by
  unfold Conditions.Settled at h
  unfold Conditions.reading
  split at h
  · next hlost => rw [h.1, if_pos hlost, List.map_nil]
  · next hlost => rw [h.2, if_neg hlost]

namespace Refreshed

variable {bs : List (List Block)}

/-- What is returned depends on the feeds and on the conditions alone. -/
theorem entries_ranges (h : Refreshed w feeds before after bs) :
    bs.map (·.map (·.period)) = feeds.map w.reading := by
  have hentries := h.entries
  clear h
  induction hentries with
  | nil => rfl
  | cons hfeed _ ih => rw [List.map_cons, List.map_cons, hfeed.reading_eq, ih]

/-- So does what is kept, save for pairs that are not written. -/
theorem ranges_eq (h : Refreshed w feeds before after bs) (listing : Int) (url : String) :
    after.ranges listing url =
      if w.renews feeds listing url then State.periodsOf (w.docs url)
      else before.ranges listing url := by
  split
  · next hpair =>
    obtain ⟨hlost, feed, hmem, rfl, rfl⟩ := w.renews_eq_true hpair
    obtain ⟨n, hn, rfl⟩ := List.mem_iff_getElem.mp hmem
    obtain ⟨hlen, hget⟩ := List.forall₂_iff_get.mp h.entries
    have hsettled := hget n hn (hlen ▸ hn)
    simp only [Conditions.Settled, List.get_eq_getElem, hlost, Bool.false_eq_true, if_false]
      at hsettled
    rw [Store.ranges, ← hsettled.1, hsettled.2]
  · next hpair =>
    rw [Store.ranges, h.blocksOf_eq (Bool.eq_false_iff.mpr hpair), Store.ranges]

end Refreshed

namespace State

def Refreshing (w : Conditions) (feeds : List Feed) (before after : Store) : Phase → Prop
  | .waiting => after = before
  | .passing fs p => fs = feeds ∧ Midway w feeds before after p.stageAt
  | .finished o => ∃ bs, o = .blocks bs ∧ Refreshed w feeds before after bs
  | .dropped => False

variable {size : Nat} {old : List Call} {listing : Option Int} {phase phase' : Phase}
  {s : State} {e : Event} {store : Store}

/-- What a feed is about to write was read under the conditions, and only a feed whose write goes
through has new blocks. No feed is skipped, since no other call changes the feeds. -/
theorem Advance.midway {c i : Nat} {p : Pass} {feed : Feed} {st st' : Stage} {locks : Locks Party}
    (h : s.Advance c i p feed e st st' store locks) (hm : s.Meets w e)
    (hslot : s.slot? c i = some (p, ⟨feed, st⟩)) (hb : p.batch[i]? = some ⟨feed, st⟩)
    (hn : feeds[p.results.length + i]? = some feed) (hfeed : feed ∈ s.store.feeds)
    (hpairs : feeds.Pairwise fun f g => ¬ (f.listing = g.listing ∧ f.url = g.url))
    (hf : Midway w feeds before s.store p.stageAt) :
    Midway w feeds before store (p.setStage i st').stageAt := by
  have hstage := Pass.stageAt_setStage hb st'
  have hread : ∀ ps, st.periods? = some ps → ps = periodsOf (w.docs feed.url) := fun ps hps =>
    hf.read _ feed hn ps (by rw [Pass.stageAt_batch hb]; exact hps)
  cases h with
  | send => exact hf.set_same hstage hn (fun _ h => by cases h) (fun _ h => by cases h)
  | receive d =>
    refine hf.set_same hstage hn (fun ps hps => ?_) (fun _ h => by cases h)
    rw [← Option.some.inj hps, hm _ hslot]
  | lineUp _ => exact hf.set_same hstage hn hread (fun _ h => by cases h)
  | clear _ _ => exact hf.set_same hstage hn hread (fun _ h => by cases h)
  | skip _ hno =>
    refine absurd (ask_eq_ok_iff.mpr ⟨hm, ?_⟩) hno
    exact List.any_eq_true.mpr ⟨feed, Store.mem_findFeeds_some.mpr ⟨hfeed, rfl⟩, by simp⟩
  | write hw hup =>
    obtain rfl := hread _ (toWrite?_periods? hw)
    have hlost : w.lost feed.listing feed.url = false :=
      Bool.eq_false_iff.mpr fun hlost => hup ((hm _ hslot).mpr hlost)
    exact hf.set_written hpairs hn hlost hstage
  | fail _ hdown =>
    refine hf.set_same hstage hn (fun _ h => by cases h) (fun bs hbs => ?_)
    cases hbs
    exact hf.settled_of_lost hn ((hm _ hslot).mp hdown)

theorem Stride.refreshing (hs : s.Lone old (.refresh listing) phase) (hm : s.Meets w e)
    (hd : before.Distinct)
    (h : Stride size listing s old.length e phase phase' store)
    (hr : Refreshing w (before.findFeeds listing) before s.store phase) :
    Refreshing w (before.findFeeds listing) before store phase' := by
  cases h with
  | list =>
    obtain rfl : s.store = before := hr
    refine ⟨rfl, ?_⟩
    rw [funext (Pass.stageAt_start listing.isNone size _)]
    exact midway_idle
  | advance hb ha =>
    obtain ⟨rfl, hf⟩ := hr
    have hn := hs.pass_regular.feed_at hb
    have hfeed := Store.mem_feeds_of_mem_findFeeds (List.mem_of_getElem? hn)
    have hpairs := (Store.distinct_iff.mp hd).sublist (before.findFeeds_sublist listing)
    exact ⟨rfl, ha.midway hm (by rw [hs.slot?_eq, hb]; rfl) hb hn (hf.feeds_eq ▸ hfeed) hpairs hf⟩
  | next hw _ =>
    obtain ⟨rfl, hf⟩ := hr
    refine ⟨rfl, ?_⟩
    rw [funext (Pass.stageAt_next hw)]
    exact hf
  | finish hw hrest =>
    obtain ⟨rfl, hf⟩ := hr
    exact ⟨_, rfl, hf.finish hs.pass_regular hw hrest⟩

/-! ## Whole runs -/

/-- The events are a run of a refresh alone, from its arrival in a service at rest to its return. -/
structure Refreshes (size : Nat) (w : Conditions) (s₀ : State) (listing : Option Int)
    (es : List Event) (bs : List (List Block)) (s : State) : Prop where
  along : Along size (Meets w) (s₀.submit (.refresh listing)) es
  run : (s₀.submit (.refresh listing)).run? size es = some s
  returned : s.calls[s₀.calls.length]? = some ⟨.refresh listing, .finished (.blocks bs)⟩

variable {s₀ : State} {es : List Event} {bs : List (List Block)}

theorem AtRest.run (hrest : s₀.AtRest) (hd : s₀.store.Distinct)
    (hes : Along size (Meets w) (s₀.submit (.refresh listing)) es)
    (h : (s₀.submit (.refresh listing)).run? size es = some s) :
    ∃ phase, s.Lone s₀.calls (.refresh listing) phase ∧
      Refreshing w (s₀.store.findFeeds listing) s₀.store s.store phase := by
  refine along_induction (motive := fun s => ∃ phase, s.Lone s₀.calls (.refresh listing) phase ∧
      Refreshing w (s₀.store.findFeeds listing) s₀.store s.store phase)
    (fun ⟨phase, hs, hr⟩ hm hstep => ?_) hes ⟨.waiting, hrest.submit rfl, rfl⟩ h
  obtain ⟨phase', hs', hstride⟩ := hs.stride hm (step?_move hstep)
  exact ⟨phase', hs', hstride.refreshing hs hm hd hr⟩

theorem Refreshes.refreshed (h : Refreshes size w s₀ listing es bs s) (hrest : s₀.AtRest)
    (hd : s₀.store.Distinct) :
    s.AtRest ∧ Refreshed w (s₀.store.findFeeds listing) s₀.store s.store bs := by
  obtain ⟨phase, hs, hr⟩ := hrest.run hd h.along h.run
  obtain rfl : phase = .finished (.blocks bs) := by
    have hk := hs.get.symm.trans h.returned
    exact congrArg Call.phase (Option.some.inj hk)
  obtain ⟨_, ho, hr⟩ := hr
  cases ho
  exact ⟨hs.atRest rfl, hr⟩

/-- A run that has not returned can be continued until it does. -/
theorem AtRest.exists_refreshes (hrest : s₀.AtRest) (hd : s₀.store.Distinct)
    (hes : Along size (Meets w) (s₀.submit (.refresh listing)) es)
    (h : (s₀.submit (.refresh listing)).run? size es = some s) :
    ∃ fs bs s', Refreshes size w s₀ listing (es ++ fs) bs s' := by
  obtain ⟨phase, hs, -⟩ := hrest.run hd hes h
  obtain ⟨fs, s', hfs, hrun, phase', hs', hover⟩ := hs.exists_run w size
  have hall : Along size (Meets w) (s₀.submit (.refresh listing)) (es ++ fs) := by
    refine along_append.mpr ⟨hes, fun s₁ hs₁ => ?_⟩
    rw [← Option.some.inj (h.symm.trans hs₁)]
    exact hfs
  have hend : (s₀.submit (.refresh listing)).run? size (es ++ fs) = some s' := by
    rw [run?_append, h]
    exact hrun
  obtain ⟨phase'', hs'', hr⟩ := hrest.run hd hall hend
  have hphase : phase' = phase'' :=
    congrArg Call.phase (Option.some.inj (hs'.get.symm.trans hs''.get))
  subst hphase
  cases phase' with
  | waiting => cases hover
  | passing feeds p => cases hover
  | dropped => exact hr.elim
  | finished o =>
    obtain ⟨bs, rfl, -⟩ := hr
    exact ⟨fs, bs, s', hall, hend, hs'.get⟩

/-- A refresh that runs alone returns, after a number of steps that its feeds bound, however the
conditions, the size of batches and the order of steps are; and what it returns and leaves is the same as
if every feed were read by itself. So neither the size nor the order of steps changes a period, reading
the same documents again changes none either, and to a listing a refresh of all feeds does what a refresh
of this listing would do. -/
theorem refresh_alone (hrest : s₀.AtRest) (hd : s₀.store.Distinct) (size : Nat) (w : Conditions)
    (listing : Option Int) :
    (∀ es s, Along size (Meets w) (s₀.submit (.refresh listing)) es →
      (s₀.submit (.refresh listing)).run? size es = some s →
      es.length ≤ 6 * (s₀.store.findFeeds listing).length + 2 ∧
        ∃ fs bs s', Refreshes size w s₀ listing (es ++ fs) bs s') ∧
    ∀ es bs s, Refreshes size w s₀ listing es bs s →
      s.AtRest ∧ Refreshed w (s₀.store.findFeeds listing) s₀.store s.store bs ∧
      bs.map (·.map (·.period)) = (s₀.store.findFeeds listing).map w.reading ∧
      (∀ size' es' bs' s', Refreshes size' w s₀ listing es' bs' s' →
        bs'.map (·.map (·.period)) = bs.map (·.map (·.period)) ∧
        s'.store.ranges = s.store.ranges) ∧
      (∀ size' w' es' bs' s', w'.docs = w.docs →
        (∀ l url, w.lost l url = true → w'.lost l url = true) →
        Refreshes size' w' s listing es' bs' s' → s'.store.ranges = s.store.ranges) ∧
      (listing = none → ∀ l size' es' bs' s', Refreshes size' w s₀ (some l) es' bs' s' →
        s'.store.ranges l = s.store.ranges l) := by
  refine ⟨fun es s hes h => ⟨?_, hrest.exists_refreshes hd hes h⟩, fun es bs s h => ?_⟩
  · obtain ⟨phase, -, hle⟩ := (hrest.submit rfl).run_left hes h
    exact Nat.le_trans (Nat.le_add_right _ _) hle
  obtain ⟨hrest', hr⟩ := h.refreshed hrest hd
  refine ⟨hrest', hr, hr.entries_ranges, fun size' es' bs' s' h' => ?_,
    fun size' w' es' bs' s' hdocs hlost h' => ?_, fun hall l size' es' bs' s' h' => ?_⟩
  · have hr' := (h'.refreshed hrest hd).2
    refine ⟨hr'.entries_ranges.trans hr.entries_ranges.symm, ?_⟩
    funext l url
    rw [hr'.ranges_eq, hr.ranges_eq]
  · have hfeeds := Store.findFeeds_congr hr.feeds_eq
    have hr' := (h'.refreshed hrest' (hr.distinct hd)).2
    funext l url
    rw [hr'.ranges_eq, hfeeds, hr.ranges_eq, hdocs]
    split
    · next hpair => rw [if_pos (Conditions.renews_of_lost hlost hpair)]
    · rfl
  · have hr' := (h'.refreshed hrest hd).2
    subst hall
    funext url
    rw [hr'.ranges_eq, hr.ranges_eq, Conditions.renews_findFeeds]

theorem inRange_busyDay : Day.lowest ≤ Civil.number ⟨2025, 7, 1⟩ ∧
    Civil.number ⟨2025, 7, 1⟩ ≤ Day.highest := by decide

def busyDay : Period :=
  ⟨⟨Civil.number ⟨2025, 7, 1⟩, inRange_busyDay⟩, ⟨Civil.number ⟨2025, 7, 2⟩, by decide⟩⟩

/-- Three feeds of two listings, and an old block from each of the last two. -/
def threeFeeds : Store where
  feeds := [⟨0, 1, "http://a"⟩, ⟨1, 1, "http://b"⟩, ⟨2, 2, "http://a"⟩]
  blocks := [⟨3, 1, "http://b", busyDay⟩, ⟨4, 2, "http://a", busyDay⟩]
  fresh := 5

/-- One URL cannot be read, and the blocks of one listing cannot be replaced. -/
def mishaps : Conditions where
  docs url := if url = "http://a" then oneDay else .error (.fetch "timeout")
  lost listing _ := listing == 2

/-- In the first batch the second feed gets ready before the first one. -/
def overtaking : List Event :=
  [.list 0 [], .send 0 0, .send 0 1, .receive 0 1 (.error (.fetch "timeout")), .lineUp 0 1,
    .receive 0 0 oneDay, .lineUp 0 0, .recheck 0 1 [], .write 0 1 [], .recheck 0 0 [],
    .write 0 0 [], .turn 0, .send 0 0, .receive 0 0 oneDay, .lineUp 0 0, .recheck 0 0 [],
    .write 0 0 [.replaceBlocks], .turn 0]

theorem overtaking_refreshed : ∃ s,
    Refreshes 2 mishaps (quiet threeFeeds) none overtaking
      [[⟨5, 1, "http://a", busyDay⟩], [], []] s ∧
    s.store.blocks = [⟨4, 2, "http://a", busyDay⟩, ⟨5, 1, "http://a", busyDay⟩] ∧
    Refreshed mishaps threeFeeds.feeds threeFeeds s.store
      [[⟨5, 1, "http://a", busyDay⟩], [], []] ∧
    ∃ es bs s', Refreshes 0 mishaps s none es bs s' ∧ s'.store.ranges = s.store.ranges := by
  have h : (((quiet threeFeeds).submit (.refresh none)).run? 2 overtaking).any (fun s =>
      s.calls[0]? = some ⟨.refresh none,
        .finished (.blocks [[⟨5, 1, "http://a", busyDay⟩], [], []])⟩ ∧
      s.store.blocks = [⟨4, 2, "http://a", busyDay⟩, ⟨5, 1, "http://a", busyDay⟩]) = true := by
    decide
  obtain ⟨s, hs, h⟩ := (Option.any_eq_true _ _).mp h
  obtain ⟨hreturned, hblocks⟩ := of_decide_eq_true h
  have halong : Along 2 (Meets mishaps) ((quiet threeFeeds).submit (.refresh none)) overtaking := by
    decide
  have hd : threeFeeds.Distinct := Store.distinct_iff.mpr (by decide)
  have hrun : Refreshes 2 mishaps (quiet threeFeeds) none overtaking _ s := ⟨halong, hs, hreturned⟩
  obtain ⟨hrest, hr, -, -, hagain, -⟩ :=
    (refresh_alone (atRest_quiet threeFeeds) hd 2 mishaps none).2 _ _ s hrun
  obtain ⟨-, es, bs, s', hrun'⟩ :=
    (refresh_alone hrest (hr.distinct hd) 0 mishaps none).1 [] (s.submit (.refresh none)) trivial rfl
  exact ⟨s, hrun, hblocks, hr, es, bs, s', hrun', hagain 0 mishaps es bs s' rfl (fun _ _ h => h) hrun'⟩

end State

end Lodging.Sync
