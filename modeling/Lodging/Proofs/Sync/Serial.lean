import Lodging.Proofs.Calendar.Store
import Lodging.Proofs.Sync.Moves

/-! # Serial work

What calls do to the store when they work one after another, each as a whole: a call on one listing
lists its feeds and then fills them in their order, and a feed of a call on all feeds is looked up and
filled by itself. What a job meets on its way, documents, failures and free identifiers, is given
beforehand, so the same jobs in another order are about the same documents. -/

namespace Lodging.Sync

open Calendar State

/-! ## Stores that agree on a listing -/

/-- The listing has the same feeds in both stores, and the same blocks from every URL. -/
structure SameAt (listing : Int) (s t : Store) : Prop where
  feeds : s.findFeeds (some listing) = t.findFeeds (some listing)
  blocks : ∀ url, s.blocksOf listing url = t.blocksOf listing url

namespace SameAt

variable {listing : Int} {s t u : Store}

theorem refl (listing : Int) (s : Store) : SameAt listing s s := ⟨rfl, fun _ => rfl⟩

theorem symm (h : SameAt listing s t) : SameAt listing t s :=
  ⟨h.feeds.symm, fun url => (h.blocks url).symm⟩

theorem trans (h : SameAt listing s t) (h' : SameAt listing t u) : SameAt listing s u :=
  ⟨h.feeds.trans h'.feeds, fun url => (h.blocks url).trans (h'.blocks url)⟩

theorem replaceFeeds_of_ne (s : Store) {other : Int} (h : listing ≠ other) (urls : List String) :
    SameAt listing (s.replaceFeeds other urls).1 s :=
  ⟨Store.findFeeds_replaceFeeds_of_ne s h urls, Store.blocksOf_replaceFeeds_of_ne s h urls⟩

theorem replaceBlocks_of_ne (s : Store) {other : Int} (h : listing ≠ other) (url : String)
    (ps : List Period) : SameAt listing (s.replaceBlocks other url ps).1 s :=
  ⟨Store.findFeeds_replaceBlocks s other url ps _,
    fun _ => Store.blocksOf_replaceBlocks_of_ne s (fun he => h he.1) ps⟩

/-- New feeds with the same identifiers leave stores in agreement. -/
theorem replaceFeeds (h : SameAt listing s t) (hf : s.fresh = t.fresh) (urls : List String) :
    SameAt listing (s.replaceFeeds listing urls).1 (t.replaceFeeds listing urls).1 where
  feeds := by rw [Store.findFeeds_replaceFeeds, Store.findFeeds_replaceFeeds, hf]
  blocks := fun url => by
    rw [Store.blocksOf_replaceFeeds, Store.blocksOf_replaceFeeds, h.blocks]

end SameAt

/-! ## Filling feeds -/

/-- What the work on a feed meets: its document, the questions that fail when it is looked up again and
when it is written, and the next free identifier for its blocks. -/
structure Supply where
  download : Download
  recheck : Outage
  write : Outage
  fresh : Nat

def Supply.blocks (m : Supply) (feed : Feed) : List Block :=
  if .replaceBlocks ∈ m.write then []
  else Store.newBlocks m.fresh feed.listing feed.url (periodsOf m.download)

def fill (store : Store) (feed : Feed) (m : Supply) : Store × List Block :=
  match ask m.write .replaceBlocks
    ({ store with fresh := m.fresh }.replaceBlocks feed.listing feed.url (periodsOf m.download)) with
  | .ok written => written
  | .error _ => (store, [])

def fillAll (store : Store) : List (Feed × Supply) → Store × List (List Block)
  | [] => (store, [])
  | (feed, m) :: entries =>
    let (store, bs) := fill store feed m
    let (store, written) := fillAll store entries
    (store, bs :: written)

/-- The feeds of a list with what they meet at their places. -/
def entries (feeds : List Feed) (supply : Nat → Supply) : List (Feed × Supply) :=
  feeds.zipIdx.map fun (feed, n) => (feed, supply n)

theorem fill_of_mem {m : Supply} (h : .replaceBlocks ∈ m.write) (store : Store) (feed : Feed) :
    fill store feed m = (store, []) := by
  simp [fill, ask, h]

theorem fill_of_not_mem {m : Supply} (h : .replaceBlocks ∉ m.write) (store : Store)
    (feed : Feed) : fill store feed m =
      { store with fresh := m.fresh }.replaceBlocks feed.listing feed.url
        (periodsOf m.download) := by
  simp [fill, ask, h]

/-- What is written does not depend on the store. -/
theorem fill_snd (store : Store) (feed : Feed) (m : Supply) :
    (fill store feed m).2 = m.blocks feed := by
  by_cases h : Access.replaceBlocks ∈ m.write
  · simp [fill_of_mem h, Supply.blocks, h]
  · simp [fill_of_not_mem h, Supply.blocks, h, Store.replaceBlocks]

theorem findFeeds_fill (store : Store) (feed : Feed) (m : Supply) (listing : Option Int) :
    (fill store feed m).1.findFeeds listing = store.findFeeds listing := by
  by_cases h : Access.replaceBlocks ∈ m.write
  · rw [fill_of_mem h]
  · rw [fill_of_not_mem h, Store.findFeeds_replaceBlocks]
    cases listing <;> rfl

theorem blocksOf_fill (store : Store) (feed : Feed) (m : Supply) :
    (fill store feed m).1.blocksOf feed.listing feed.url =
      if .replaceBlocks ∈ m.write then store.blocksOf feed.listing feed.url else m.blocks feed := by
  split
  · next h => rw [fill_of_mem h]
  · next h => rw [fill_of_not_mem h, Store.blocksOf_replaceBlocks, Supply.blocks, if_neg h]

theorem blocksOf_fill_of_ne (store : Store) {feed : Feed} {listing : Int} {url : String}
    (h : ¬ (listing = feed.listing ∧ url = feed.url)) (m : Supply) :
    (fill store feed m).1.blocksOf listing url = store.blocksOf listing url := by
  by_cases hm : Access.replaceBlocks ∈ m.write
  · rw [fill_of_mem hm]
  · rw [fill_of_not_mem hm, Store.blocksOf_replaceBlocks_of_ne _ h]
    rfl

theorem SameAt.fill {listing : Int} {s t : Store} (h : SameAt listing s t) (feed : Feed)
    (m : Supply) : SameAt listing (Sync.fill s feed m).1 (Sync.fill t feed m).1 where
  feeds := by rw [findFeeds_fill, findFeeds_fill, h.feeds]
  blocks := fun url => by
    by_cases he : listing = feed.listing ∧ url = feed.url
    · obtain ⟨rfl, rfl⟩ := he
      rw [blocksOf_fill, blocksOf_fill, h.blocks]
    · rw [blocksOf_fill_of_ne s he, blocksOf_fill_of_ne t he, h.blocks]

theorem getElem?_entries (feeds : List Feed) (supply : Nat → Supply) (n : Nat) :
    (entries feeds supply)[n]? = feeds[n]?.map fun feed => (feed, supply n) := by
  rw [entries, List.getElem?_map, List.getElem?_zipIdx, Option.map_map]
  simp [Function.comp_def]

theorem mem_entries {feeds : List Feed} {supply : Nat → Supply} {feed : Feed} {m : Supply} :
    (feed, m) ∈ entries feeds supply ↔ ∃ n, feeds[n]? = some feed ∧ supply n = m := by
  simp only [List.mem_iff_getElem?, getElem?_entries, Option.map_eq_some_iff, Prod.mk.injEq]
  constructor
  · rintro ⟨n, f, hn, rfl, rfl⟩
    exact ⟨n, hn, rfl⟩
  · rintro ⟨n, hn, rfl⟩
    exact ⟨n, feed, hn, rfl, rfl⟩

theorem entries_urls (feeds : List Feed) (supply : Nat → Supply) :
    (entries feeds supply).map (·.1.url) = feeds.map (·.url) := by
  have h := congrArg (List.map (·.url)) (List.zipIdx_map_fst 0 feeds)
  rw [List.map_map] at h
  rw [entries, List.map_map, ← h]
  rfl

theorem fillAll_snd (store : Store) (es : List (Feed × Supply)) :
    (fillAll store es).2 = es.map fun (feed, m) => m.blocks feed := by
  induction es generalizing store with
  | nil => rfl
  | cons entry es ih => simp [fillAll, fill_snd, ih]

theorem findFeeds_fillAll (store : Store) (es : List (Feed × Supply)) (listing : Option Int) :
    (fillAll store es).1.findFeeds listing = store.findFeeds listing := by
  induction es generalizing store with
  | nil => rfl
  | cons entry es ih => simp [fillAll, ih, findFeeds_fill]

theorem blocksOf_fillAll_of_not_mem (store : Store) {es : List (Feed × Supply)} {listing : Int}
    {url : String} (h : ∀ e ∈ es, ¬ (listing = e.1.listing ∧ url = e.1.url)) :
    (fillAll store es).1.blocksOf listing url = store.blocksOf listing url := by
  induction es generalizing store with
  | nil => rfl
  | cons entry es ih =>
    rw [fillAll, ih _ fun e he => h e (List.mem_cons_of_mem _ he),
      blocksOf_fill_of_ne _ (h entry List.mem_cons_self)]

/-- With different URLs every feed is filled as if it were alone. -/
theorem blocksOf_fillAll_of_mem (store : Store) {es : List (Feed × Supply)}
    (hd : (es.map (·.1.url)).Nodup) {feed : Feed} {m : Supply} (h : (feed, m) ∈ es) :
    (fillAll store es).1.blocksOf feed.listing feed.url =
      (fill store feed m).1.blocksOf feed.listing feed.url := by
  induction es generalizing store with
  | nil => cases h
  | cons entry es ih =>
    obtain ⟨hnew, hd⟩ := List.nodup_cons.mp hd
    rcases List.mem_cons.mp h with rfl | h
    · rw [fillAll, blocksOf_fillAll_of_not_mem]
      exact fun e he hu => hnew (List.mem_map.mpr ⟨e, he, hu.2.symm⟩)
    · have hne : feed.url ≠ entry.1.url := fun hu =>
        hnew (List.mem_map.mpr ⟨(feed, m), h, hu⟩)
      rw [fillAll, ih _ hd h, blocksOf_fill, blocksOf_fill,
        blocksOf_fill_of_ne _ fun he => hne he.2]

/-! ## Filling in any order -/

/-- The feeds of the listing at some places have been filled, from the store `t`. -/
structure Filling (listing : Int) (t : Store) (feeds : List Feed) (supply : Nat → Supply)
    (filled : Nat → Bool) (s : Store) : Prop where
  rows : s.findFeeds (some listing) = t.findFeeds (some listing)
  blocks : ∀ (n : Nat) (f : Feed), feeds[n]? = some f → s.blocksOf listing f.url =
    if filled n then (fill t f (supply n)).1.blocksOf listing f.url else t.blocksOf listing f.url
  others : ∀ url, url ∉ feeds.map (·.url) → s.blocksOf listing url = t.blocksOf listing url

namespace Filling

variable {listing : Int} {s s' t : Store} {feeds : List Feed} {supply : Nat → Supply}
  {filled : Nat → Bool}

theorem start (h : SameAt listing s t) (hf : ∀ n, filled n = false) :
    Filling listing t feeds supply filled s :=
  ⟨h.feeds, fun n f _ => by simp [hf, h.blocks], fun url _ => h.blocks url⟩

theorem of_sameAt (h : Filling listing t feeds supply filled s) (hs : SameAt listing s' s) :
    Filling listing t feeds supply filled s' :=
  ⟨hs.feeds.trans h.rows, fun n f hn => (hs.blocks _).trans (h.blocks n f hn),
    fun url hu => (hs.blocks url).trans (h.others url hu)⟩

/-- What is filled does not depend on what the feeds at other places are going to meet. -/
theorem congr {supply' : Nat → Supply} {filled' : Nat → Bool}
    (h : Filling listing t feeds supply filled s) (hf : ∀ n, filled' n = filled n)
    (hs : ∀ n, filled n = true → supply' n = supply n) :
    Filling listing t feeds supply' filled' s :=
  ⟨h.rows, fun n f hn => by
    rw [h.blocks n f hn, hf]
    split
    · next hfn => rw [hs n hfn]
    · rfl, h.others⟩

/-- One more feed is filled. -/
theorem fill (h : Filling listing t feeds supply filled s) (hd : (feeds.map (·.url)).Nodup)
    {n : Nat} {f : Feed} (hn : feeds[n]? = some f) (hl : f.listing = listing)
    (hnew : filled n = false) :
    Filling listing t feeds supply (fun k => k == n || filled k)
      (Sync.fill s f (supply n)).1 where
  rows := by rw [findFeeds_fill, h.rows]
  blocks := by
    intro k g hk
    by_cases hkn : k = n
    · subst hkn
      cases hn.symm.trans hk
      subst hl
      have hold := h.blocks k f hk
      rw [hnew] at hold
      simp only [beq_self_eq_true, Bool.true_or, if_true]
      rw [blocksOf_fill, blocksOf_fill, hold]
      rfl
    · have hne : g.url ≠ f.url := fun hu => hkn <| by
        refine (List.getElem?_inj ?_ hd).mp ?_
        · simpa using (List.getElem?_eq_some_iff.mp hk).1
        · simp [hk, hn, hu]
      rw [blocksOf_fill_of_ne _ fun he => hne he.2, h.blocks k g hk]
      simp [hkn]
  others := by
    intro url hu
    rw [blocksOf_fill_of_ne, h.others url hu]
    rintro ⟨-, rfl⟩
    exact hu (List.mem_map_of_mem (List.mem_of_getElem? hn))

/-- Once every feed is filled, the listing is as if they were filled in their order. -/
theorem finish (h : Filling listing t feeds supply filled s) (hd : (feeds.map (·.url)).Nodup)
    (hl : ∀ f ∈ feeds, f.listing = listing) (hf : ∀ n < feeds.length, filled n = true) :
    SameAt listing s (fillAll t (entries feeds supply)).1 where
  feeds := by rw [h.rows, findFeeds_fillAll]
  blocks := by
    intro url
    have hd' : ((entries feeds supply).map (·.1.url)).Nodup := by rwa [entries_urls]
    by_cases hu : url ∈ feeds.map (·.url)
    · obtain ⟨f, hmem, rfl⟩ := List.mem_map.mp hu
      obtain ⟨n, hn⟩ := List.mem_iff_getElem?.mp hmem
      have he : (f, supply n) ∈ entries feeds supply := mem_entries.mpr ⟨n, hn, rfl⟩
      rw [h.blocks n f hn, hf n (List.getElem?_eq_some_iff.mp hn).1, ← hl f hmem,
        blocksOf_fillAll_of_mem t hd' he]
      rfl
    · rw [h.others url hu, blocksOf_fillAll_of_not_mem]
      rintro ⟨f, m⟩ he ⟨-, rfl⟩
      obtain ⟨n, hn, -⟩ := mem_entries.mp he
      exact hu (List.mem_map_of_mem (List.mem_of_getElem? hn))

end Filling

/-! ## Jobs -/

inductive Job where
  /-- A call on one listing, with what it meets when it lists its feeds and what they meet then. -/
  | call (r : Request) (down : Outage) (fresh : Nat) (supply : Nat → Supply)
  /-- A feed of a call on all feeds. -/
  | feed (feed : Feed) (supply : Supply)

def serve (store : Store) : Job → Store × Outcome
  | .call r down fresh supply =>
    match listFeeds { store with fresh } down r with
    | .ok (store, feeds) =>
      let (store, written) := fillAll store (entries feeds supply)
      (store, Call.outcomeOf r feeds written)
    | .error e => (store, .failed e)
  | .feed feed m =>
    match ask m.recheck .findFeeds (isRegistered store feed) with
    | .ok true =>
      let (store, bs) := fill store feed m
      (store, .blocks [bs])
    | _ => (store, .blocks [[]])

def serveAll (store : Store) : List Job → Store × List Outcome
  | [] => (store, [])
  | job :: jobs =>
    let (store, o) := serve store job
    let (store, os) := serveAll store jobs
    (store, o :: os)

theorem serve_feed {store : Store} {feed : Feed} {m : Supply}
    (h : ask m.recheck .findFeeds (isRegistered store feed) = .ok true) :
    serve store (.feed feed m) = ((fill store feed m).1, .blocks [(fill store feed m).2]) := by
  simp only [serve, h]

/-- A feed that is gone, or cannot be looked up, is left alone. -/
theorem serve_feed_of_ne {store : Store} {feed : Feed} {m : Supply}
    (h : ask m.recheck .findFeeds (isRegistered store feed) ≠ .ok true) :
    serve store (.feed feed m) = (store, .blocks [[]]) := by
  unfold serve
  cases hask : ask m.recheck .findFeeds (isRegistered store feed) with
  | error e => simp only [hask]
  | ok found =>
    cases found with
    | false => simp only [hask]
    | true => exact absurd hask h

theorem serveAll_concat (store : Store) (jobs : List Job) (job : Job) :
    serveAll store (jobs ++ [job]) =
      ((serve (serveAll store jobs).1 job).1,
        (serveAll store jobs).2 ++ [(serve (serveAll store jobs).1 job).2]) := by
  induction jobs generalizing store with
  | nil => rfl
  | cons first jobs ih => simp [serveAll, ih]

/-- A call on a listing lists the same feeds in stores that agree on it, and they agree afterwards. -/
theorem SameAt.listFeeds {listing : Int} {s t : Store} (h : SameAt listing s t)
    (hf : s.fresh = t.fresh) (down : Outage) {r : Request} (hr : r.listing? = some listing) :
    (∃ s' t' feeds, State.listFeeds s down r = .ok (s', feeds) ∧
      State.listFeeds t down r = .ok (t', feeds) ∧ SameAt listing s' t') ∨
    (∃ e, State.listFeeds s down r = .error e ∧ State.listFeeds t down r = .error e) := by
  cases r with
  | setFeeds other urls =>
    cases hr
    by_cases hd : Access.replaceFeeds ∈ down
    · exact .inr ⟨_, ask_of_mem hd _, ask_of_mem hd _⟩
    · refine .inl ⟨_, _, Store.newFeeds s.fresh listing (distinct urls), ask_eq_ok_iff.mpr ⟨hd, rfl⟩,
        ask_eq_ok_iff.mpr ⟨hd, ?_⟩, h.replaceFeeds hf (distinct urls)⟩
      rw [hf]
      rfl
  | refresh other =>
    cases hr
    by_cases hd : Access.findFeeds ∈ down
    · exact .inr ⟨_, ask_of_mem hd _, ask_of_mem hd _⟩
    · exact .inl ⟨s, t, s.findFeeds (some listing), ask_eq_ok_iff.mpr ⟨hd, rfl⟩,
        ask_eq_ok_iff.mpr ⟨hd, by rw [h.feeds]⟩, h⟩

theorem SameAt.isRegistered {feed : Feed} {s t : Store} (h : SameAt feed.listing s t) :
    State.isRegistered s feed = State.isRegistered t feed := by
  rw [State.isRegistered, State.isRegistered, h.feeds]

/-- Which identifiers are free makes no difference to what is stored. -/
theorem SameAt.withFresh (listing : Int) (s : Store) (n : Nat) :
    SameAt listing { s with fresh := n } s := ⟨rfl, fun _ => rfl⟩

end Lodging.Sync
