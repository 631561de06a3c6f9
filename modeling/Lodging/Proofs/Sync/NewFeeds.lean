import Lodging.Proofs.Calendar.Registration
import Lodging.Proofs.Sync.Refresh
import Lodging.Proofs.Sync.Soundness

/-! # A listing gets new feeds

A call that gives a listing feeds and runs alone comes to two steps: it replaces the feeds of the listing,
which takes the blocks of dropped URLs away and leaves those of kept ones, and then it reads the new feeds
as a refresh of the listing would (`Midway`). So what there is in the end is said of the store before the
call: the URLs whose blocks were written have those of their documents, and the others, as far as they are
still named, have the blocks they had. Every feed is sent for once, since it leaves the idle stage once. -/

namespace Lodging.Sync

open Calendar

namespace Pass

/-- The URLs of a pass over the feeds that were sent for: those of earlier batches, and of the batch at
work those that are not idle. -/
def sentFor (p : Pass) (feeds : List Feed) : List String :=
  (feeds.take p.results.length).map (·.url) ++
    (p.batch.filter (·.stage != .idle)).map (·.feed.url)

variable {p : Pass} {feeds : List Feed} {guarded : Bool}

theorem filter_load (guarded : Bool) (size : Nat) (results : List (List Block)) (feeds : List Feed) :
    (load guarded size results feeds).batch.filter (·.stage != .idle) = [] :=
  List.filter_eq_nil_iff.mpr fun slot hslot => by simp [load_idle hslot]

theorem sentFor_start (guarded : Bool) (size : Nat) (feeds : List Feed) :
    (start guarded size feeds).sentFor feeds = [] := by
  rw [sentFor, start, filter_load]
  rfl

/-- A feed that leaves the idle stage adds its URL, any other that goes on adds nothing. -/
theorem sentFor_setStage {i : Nat} {feed : Feed} {st st' : Stage} (hb : p.batch[i]? = some ⟨feed, st⟩)
    (hst : st' ≠ .idle) : ((p.setStage i st').sentFor feeds).Perm
      (p.sentFor feeds ++ if st = .idle then [feed.url] else []) := by
  obtain ⟨hi, hget⟩ := List.getElem?_eq_some_iff.mp hb
  have hold : p.batch = p.batch.take i ++ ⟨feed, st⟩ :: p.batch.drop (i + 1) := by
    rw [← hget, List.getElem_cons_drop, List.take_append_drop]
  have hnew : (p.setStage i st').batch = p.batch.take i ++ ⟨feed, st'⟩ :: p.batch.drop (i + 1) := by
    rw [setStage, State.modify_eq_set hb, List.set_eq_take_append_cons_drop, if_pos hi]
  have hresults : (p.setStage i st').results = p.results := rfl
  rw [sentFor, sentFor, hresults, hnew, List.append_assoc]
  refine List.Perm.append_left _ ?_
  generalize p.batch.take i = front at hold
  generalize p.batch.drop (i + 1) = back at hold
  rw [hold]
  simp only [List.filter_append, List.map_append]
  by_cases hidle : st = .idle
  · subst hidle
    simp only [List.filter_cons, bne_self_eq_false, Bool.false_eq_true, if_false, bne_iff_ne, ne_eq, hst,
      not_false_eq_true, if_true, List.map_cons]
    rw [List.append_assoc]
    exact List.Perm.append_left _ (List.perm_append_singleton _ _).symm
  · simp [hidle, hst]

theorem filter_of_written? {written : List (List Block)} (hw : p.written? = some written) :
    p.batch.filter (·.stage != .idle) = p.batch := by
  refine List.filter_eq_self.mpr fun slot hslot => ?_
  obtain ⟨bs, -, hdone⟩ := done_of_written? hw hslot
  rw [hdone]
  rfl

/-- When a batch is done all of its feeds have been sent for. -/
theorem sentFor_of_written? (hp : p.Regular guarded feeds) {written : List (List Block)}
    (hw : p.written? = some written) :
    p.sentFor feeds = (feeds.take (p.results ++ written).length).map (·.url) := by
  have hlen : written.length = p.batch.length := by
    simpa using (congrArg List.length (written?_eq_some hw)).symm
  rw [sentFor, filter_of_written? hw, List.length_append, List.take_add, hp.drop_eq, hlen,
    List.take_left' (by simp), List.map_append, List.map_map]
  rfl

theorem sentFor_next (hp : p.Regular guarded feeds) {written : List (List Block)}
    (hw : p.written? = some written) : (p.next written).sentFor feeds = p.sentFor feeds := by
  rw [sentFor_of_written? hp hw, sentFor, next, filter_load, List.map_nil, List.append_nil]
  rfl

theorem sentFor_of_rest_nil (hp : p.Regular guarded feeds) {written : List (List Block)}
    (hw : p.written? = some written) (hr : p.rest = []) : p.sentFor feeds = feeds.map (·.url) := by
  rw [sentFor_of_written? hp hw, hp.length_of_rest_nil hw hr, List.take_length]

end Pass

namespace State

/-! ## What a run sends for -/

def sendsFor? (s : State) : Event → Option String
  | .send c i => (s.slot? c i).map (·.2.feed.url)
  | _ => none

def fetches (size : Nat) (s : State) : List Event → List String
  | [] => []
  | e :: es =>
    (s.sendsFor? e).toList ++
      match s.step? size e with
      | some s' => s'.fetches size es
      | none => []

/-- Only a feed that was idle is sent for. -/
theorem Advance.sendsFor? {s : State} {c i : Nat} {p : Pass} {feed : Feed} {e : Event} {st st' : Stage}
    {store : Store} {locks : Locks Party} (h : s.Advance c i p feed e st st' store locks)
    (hslot : s.slot? c i = some (p, ⟨feed, st⟩)) :
    (s.sendsFor? e).toList = (if st = .idle then [feed.url] else []) ∧ st' ≠ .idle := by
  have hwrite : ∀ {ps : List Period}, toWrite? p st = some ps → st ≠ .idle := by
    rintro ps hw rfl
    cases hw
  cases h with
  | send => simp [State.sendsFor?, hslot]
  | write hw _ => simp [State.sendsFor?, hwrite hw]
  | fail hw _ => simp [State.sendsFor?, hwrite hw]
  | _ => simp [State.sendsFor?]

/-! ## The call -/

/-- No other call comes in and none is given up, feeds are replaced, and downloads and writes go as the
conditions say. -/
def Grants (w : Conditions) (s : State) : Event → Prop
  | .list _ down => Access.replaceFeeds ∉ down
  | e => s.Meets w e

instance (w : Conditions) (s : State) : (e : Event) → Decidable (s.Grants w e)
  | .list _ down => inferInstanceAs (Decidable (Access.replaceFeeds ∉ down))
  | .submit r => inferInstanceAs (Decidable (s.Meets w (.submit r)))
  | .send c i => inferInstanceAs (Decidable (s.Meets w (.send c i)))
  | .receive c i d => inferInstanceAs (Decidable (s.Meets w (.receive c i d)))
  | .lineUp c i => inferInstanceAs (Decidable (s.Meets w (.lineUp c i)))
  | .recheck c i down => inferInstanceAs (Decidable (s.Meets w (.recheck c i down)))
  | .write c i down => inferInstanceAs (Decidable (s.Meets w (.write c i down)))
  | .turn c => inferInstanceAs (Decidable (s.Meets w (.turn c)))
  | .drop c => inferInstanceAs (Decidable (s.Meets w (.drop c)))

/-- What there is in each phase of a call that gives a listing feeds, with the URLs that were sent for. -/
def Renewing (w : Conditions) (listing : Int) (urls : List String) (before after : Store)
    (log : List String) : Phase → Prop
  | .waiting => after = before ∧ log = []
  | .passing feeds p => feeds = (before.replaceFeeds listing (distinct urls)).2 ∧
      Midway w feeds (before.replaceFeeds listing (distinct urls)).1 after p.stageAt ∧
      log.Perm (p.sentFor feeds)
  | .finished o => ∃ feeds bs, o = .feeds feeds ∧
      feeds = (before.replaceFeeds listing (distinct urls)).2 ∧
      Refreshed w feeds (before.replaceFeeds listing (distinct urls)).1 after bs ∧
      log.Perm (feeds.map (·.url))
  | .dropped => False

variable {size : Nat} {w : Conditions} {old : List Call} {listing : Int} {urls log : List String}
  {phase : Phase} {before : Store} {s s' : State} {e : Event}

theorem Grants.meets (h : s.Grants w e) (he : ∀ c down, e ≠ .list c down) : s.Meets w e := by
  cases e with
  | list c down => exact absurd rfl (he c down)
  | _ => exact h

namespace Renewing

/-- No two of the new feeds write the same blocks, and they are in the store. -/
theorem feeds_spec (hd : before.Distinct) {feeds : List Feed}
    (hfeeds : feeds = (before.replaceFeeds listing (distinct urls)).2) :
    (feeds.Pairwise fun f g => ¬ (f.listing = g.listing ∧ f.url = g.url)) ∧
      ∀ f ∈ feeds, f ∈ (before.replaceFeeds listing (distinct urls)).1.feeds := by
  have hfound := before.findFeeds_replaceFeeds listing (distinct urls)
  have hsub := (before.replaceFeeds listing (distinct urls)).1.findFeeds_sublist (some listing)
  have hdistinct := hd.replaceFeeds listing (nodup_distinct urls)
  rw [hfound] at hsub
  exact hfeeds ▸ ⟨(Store.distinct_iff.mp hdistinct).sublist hsub, fun f hf => hsub.subset hf⟩

theorem list (hr : Renewing w listing urls before s.store log .waiting) :
    Renewing w listing urls before (s.store.replaceFeeds listing (distinct urls)).1 log
      (.passing (s.store.replaceFeeds listing (distinct urls)).2
        (.start false size (s.store.replaceFeeds listing (distinct urls)).2)) := by
  obtain ⟨rfl, rfl⟩ := hr
  refine ⟨rfl, ?_, ?_⟩
  · rw [funext (Pass.stageAt_start false size _)]
    exact midway_idle
  · rw [Pass.sentFor_start]

variable {feeds : List Feed} {p : Pass}

theorem advance (hd : before.Distinct) (hr : Renewing w listing urls before s.store log (.passing feeds p))
    (hm : s.Meets w e) {c i : Nat} {feed : Feed} {st st' : Stage} {store : Store} {locks : Locks Party}
    (hslot : s.slot? c i = some (p, ⟨feed, st⟩)) (hb : p.batch[i]? = some ⟨feed, st⟩)
    (hp : p.Regular false feeds) (ha : s.Advance c i p feed e st st' store locks) :
    Renewing w listing urls before store (log ++ (s.sendsFor? e).toList)
      (.passing feeds (p.setStage i st')) := by
  obtain ⟨hfeeds, hmid, hlog⟩ := hr
  obtain ⟨hpairs, hstored⟩ := feeds_spec hd hfeeds
  have hn := hp.feed_at hb
  have hfeed : feed ∈ s.store.feeds := hmid.feeds_eq ▸ hstored feed (List.mem_of_getElem? hn)
  obtain ⟨hsent, hst⟩ := ha.sendsFor? hslot
  refine ⟨hfeeds, ha.midway hm hslot hb hn hfeed hpairs hmid, ?_⟩
  rw [hsent]
  exact (hlog.append_right _).trans (Pass.sentFor_setStage hb hst).symm

theorem next (hr : Renewing w listing urls before s.store log (.passing feeds p))
    (hp : p.Regular false feeds) {written : List (List Block)} (hw : p.written? = some written) :
    Renewing w listing urls before s.store log (.passing feeds (p.next written)) := by
  obtain ⟨hfeeds, hmid, hlog⟩ := hr
  refine ⟨hfeeds, ?_, ?_⟩
  · rw [funext (Pass.stageAt_next hw)]
    exact hmid
  · rwa [Pass.sentFor_next hp hw]

theorem finish (hr : Renewing w listing urls before s.store log (.passing feeds p))
    (hp : p.Regular false feeds) {written : List (List Block)} (hw : p.written? = some written)
    (hrest : p.rest = []) : Renewing w listing urls before s.store log (.finished (.feeds feeds)) := by
  obtain ⟨hfeeds, hmid, hlog⟩ := hr
  exact ⟨feeds, _, rfl, hfeeds, hmid.finish hp hw hrest, Pass.sentFor_of_rest_nil hp hw hrest ▸ hlog⟩

end Renewing

/-- A step leaves less to be done. -/
theorem Lone.renewing (hs : s.Lone old (.setFeeds listing urls) phase) (hd : before.Distinct)
    (hr : Renewing w listing urls before s.store log phase) (hg : s.Grants w e)
    (h : Move size s e s') : ∃ phase', s'.Lone old (.setFeeds listing urls) phase' ∧
      Renewing w listing urls before s'.store (log ++ (s.sendsFor? e).toList) phase' ∧
      phase'.left (distinct urls).length < phase.left (distinct urls).length := by
  have ho := hs.orderly.move h
  have hquiet : s.sendsFor? e = none → log ++ (s.sendsFor? e).toList = log := fun he => by
    rw [he, Option.toList_none, List.append_nil]
  cases h with
  | refuse _ => exact hg.elim
  | join _ _ => exact hg.elim
  | enter _ _ => exact hg.elim
  | drop _ _ => exact hg.elim
  | list hc _ hlist =>
    obtain ⟨rfl, hk⟩ := hs.unique hc rfl
    cases hk
    obtain ⟨-, he⟩ := ask_eq_ok_iff.mp hlist
    obtain ⟨rfl, rfl⟩ := Prod.mk.inj he
    refine ⟨_, hs.set ho, by rw [hquiet rfl]; exact hr.list, ?_⟩
    have hle := Pass.left_start false size (Store.newFeeds s.store.fresh listing (distinct urls))
    have hlen : (Store.newFeeds s.store.fresh listing (distinct urls)).length =
        (distinct urls).length := by simp [Store.newFeeds]
    rw [hlen] at hle
    exact Nat.lt_succ_of_le hle
  | listFail hc _ hlist =>
    obtain ⟨rfl, hk⟩ := hs.unique hc rfl
    cases hk
    rw [listFeeds, ask_eq_ok_iff.mpr ⟨hg, rfl⟩] at hlist
    cases hlist
  | advance hc hb ha =>
    obtain ⟨rfl, hk⟩ := hs.unique hc rfl
    cases hk
    have hm : s.Meets w e := hg.meets fun _ _ he => by subst he; cases ha
    exact ⟨_, hs.set ho, hr.advance hd hm (slot?_of_batch hc hb) hb hs.pass_regular ha,
      Pass.left_setStage hb ha.left_lt⟩
  | next hc hw hrest =>
    obtain ⟨rfl, hk⟩ := hs.unique hc rfl
    cases hk
    exact ⟨_, hs.set ho, by rw [hquiet rfl]; exact hr.next hs.pass_regular hw,
      Pass.left_next hs.pass_regular.size_pos hrest _⟩
  | finish hc hw hrest =>
    obtain ⟨rfl, hk⟩ := hs.unique hc rfl
    cases hk
    refine ⟨_, hs.set ho, by rw [hquiet rfl]; exact hr.finish hs.pass_regular hw hrest, ?_⟩
    simp only [Phase.left, Pass.left]
    omega

/-! ## Runs -/

theorem Lone.run_renewing {es : List Event} (hs : s.Lone old (.setFeeds listing urls) phase)
    (hd : before.Distinct) (hr : Renewing w listing urls before s.store log phase)
    (hes : Along size (Grants w) s es) (h : s.run? size es = some s') :
    ∃ phase', s'.Lone old (.setFeeds listing urls) phase' ∧
      Renewing w listing urls before s'.store (log ++ s.fetches size es) phase' ∧
      es.length + phase'.left (distinct urls).length ≤ phase.left (distinct urls).length := by
  induction es generalizing s phase log with
  | nil =>
    obtain rfl := Option.some.inj h
    exact ⟨phase, hs, by rwa [fetches, List.append_nil], by simp⟩
  | cons e es ih =>
    obtain ⟨s₁, h₁, h₂⟩ := Option.bind_eq_some_iff.mp h
    obtain ⟨phase₁, hs₁, hr₁, hlt⟩ := hs.renewing hd hr hes.1 (step?_move h₁)
    obtain ⟨phase', hs', hr', hle⟩ := ih hs₁ hr₁ (hes.2 s₁ h₁) h₂
    refine ⟨phase', hs', ?_, ?_⟩
    · rw [fetches, h₁, ← List.append_assoc]
      exact hr'
    · rw [List.length_cons]
      omega

theorem offers_grants (w : Conditions) (s : State) : s.Offers (s.Grants w) where
  list := fun _ => ⟨[], List.not_mem_nil⟩
  send := (offers_meets w s).send
  receive := (offers_meets w s).receive
  lineUp := (offers_meets w s).lineUp
  recheck := (offers_meets w s).recheck
  write := (offers_meets w s).write
  turn := (offers_meets w s).turn

/-- From wherever the call is it can go on until it is over. -/
theorem Lone.exists_run_renewing (hs : s.Lone old (.setFeeds listing urls) phase)
    (hd : before.Distinct) (hr : Renewing w listing urls before s.store log phase) (size : Nat) :
    ∃ es s', Along size (Grants w) s es ∧ s.run? size es = some s' ∧
      ∃ phase', s'.Lone old (.setFeeds listing urls) phase' ∧
        Call.isOver ⟨.setFeeds listing urls, phase'⟩ = true := by
  refine exists_run_of_lt (motive := fun n s => ∃ phase log,
    s.Lone old (.setFeeds listing urls) phase ∧ Renewing w listing urls before s.store log phase ∧
      phase.left (distinct urls).length = n) ?_ ⟨phase, log, hs, hr, rfl⟩
  rintro n s ⟨phase, log, hs, hr, hn⟩
  cases hover : Call.isOver ⟨.setFeeds listing urls, phase⟩ with
  | true => exact .inl ⟨phase, hs, hover⟩
  | false =>
    obtain ⟨e, hg, hstep⟩ := (offers_grants w s).can_go_on hs.orderly hs.get hover
    obtain ⟨s₁, h₁⟩ := Option.isSome_iff_exists.mp hstep
    obtain ⟨phase₁, hs₁, hr₁, hlt⟩ := hs.renewing hd hr hg (step?_move h₁)
    exact .inr ⟨e, s₁, _, hg, h₁, hn ▸ hlt, phase₁, _, hs₁, hr₁, rfl⟩

/-- The events are a run of a call alone that gives a listing feeds, from its arrival in a service at
rest to its return. -/
structure Replaces (size : Nat) (w : Conditions) (s₀ : State) (listing : Int) (urls : List String)
    (es : List Event) (feeds : List Feed) (s : State) : Prop where
  along : Along size (Grants w) (s₀.submit (.setFeeds listing urls)) es
  run : (s₀.submit (.setFeeds listing urls)).run? size es = some s
  returned : s.calls[s₀.calls.length]? = some ⟨.setFeeds listing urls, .finished (.feeds feeds)⟩

variable {s₀ : State} {es : List Event} {feeds : List Feed}

theorem checkUrls_of_forall (h : ∀ url ∈ urls, isWebUrl url = true) : checkUrls urls = .ok () := by
  have hnone : urls.find? (!isWebUrl ·) = none :=
    List.find?_eq_none.mpr fun url hurl => by simp [h url hurl]
  rw [checkUrls, hnone]

/-- What a run from rest has come to. -/
theorem AtRest.run_renewing (hrest : s₀.AtRest) (hd : s₀.store.Distinct)
    (hurls : ∀ url ∈ urls, isWebUrl url = true)
    (hes : Along size (Grants w) (s₀.submit (.setFeeds listing urls)) es)
    (h : (s₀.submit (.setFeeds listing urls)).run? size es = some s) :
    ∃ phase, s.Lone s₀.calls (.setFeeds listing urls) phase ∧
      Renewing w listing urls s₀.store s.store
        ((s₀.submit (.setFeeds listing urls)).fetches size es) phase ∧
      es.length ≤ 6 * (distinct urls).length + 2 := by
  have hcheck : (Request.setFeeds listing urls).check = .ok () := checkUrls_of_forall hurls
  have hwaiting : Renewing w listing urls s₀.store (s₀.submit (.setFeeds listing urls)).store []
      .waiting := by
    simp only [State.submit, hcheck]
    exact ⟨rfl, rfl⟩
  obtain ⟨phase, hs, hr, hle⟩ := (hrest.submit hcheck).run_renewing hd hwaiting hes h
  exact ⟨phase, hs, hr, Nat.le_trans (Nat.le_add_right _ _) hle⟩

/-- A run that has not returned can be continued until it does. -/
theorem AtRest.exists_replaces (hrest : s₀.AtRest) (hd : s₀.store.Distinct)
    (hurls : ∀ url ∈ urls, isWebUrl url = true)
    (hes : Along size (Grants w) (s₀.submit (.setFeeds listing urls)) es)
    (h : (s₀.submit (.setFeeds listing urls)).run? size es = some s) :
    ∃ fs feeds s', Replaces size w s₀ listing urls (es ++ fs) feeds s' := by
  obtain ⟨phase, hs, hr, -⟩ := hrest.run_renewing hd hurls hes h
  obtain ⟨fs, s', hfs, hrun, phase', hs', hover⟩ := hs.exists_run_renewing hd hr size
  have hall : Along size (Grants w) (s₀.submit (.setFeeds listing urls)) (es ++ fs) := by
    refine along_append.mpr ⟨hes, fun s₁ hs₁ => ?_⟩
    rw [← Option.some.inj (h.symm.trans hs₁)]
    exact hfs
  have hend : (s₀.submit (.setFeeds listing urls)).run? size (es ++ fs) = some s' := by
    rw [run?_append, h]
    exact hrun
  obtain ⟨phase'', hs'', hr', -⟩ := hrest.run_renewing hd hurls hall hend
  have hphase : phase' = phase'' :=
    congrArg Call.phase (Option.some.inj (hs'.get.symm.trans hs''.get))
  subst hphase
  cases phase' with
  | waiting => cases hover
  | passing feeds p => cases hover
  | dropped => exact hr'.elim
  | finished o =>
    obtain ⟨feeds, bs, rfl, -⟩ := hr'
    exact ⟨fs, feeds, s', hall, hend, hs'.get⟩

theorem Replaces.renewed (h : Replaces size w s₀ listing urls es feeds s) (hrest : s₀.AtRest)
    (hd : s₀.store.Distinct) (hurls : ∀ url ∈ urls, isWebUrl url = true) :
    s.AtRest ∧ feeds = (s₀.store.replaceFeeds listing (distinct urls)).2 ∧
      (∃ bs, Refreshed w feeds (s₀.store.replaceFeeds listing (distinct urls)).1 s.store bs) ∧
      ((s₀.submit (.setFeeds listing urls)).fetches size es).Perm (feeds.map (·.url)) := by
  obtain ⟨phase, hs, hr, -⟩ := hrest.run_renewing hd hurls h.along h.run
  obtain rfl : phase = .finished (.feeds feeds) :=
    congrArg Call.phase (Option.some.inj (hs.get.symm.trans h.returned))
  obtain ⟨_, bs, ho, hfeeds, hrefreshed, hlog⟩ := hr
  cases ho
  exact ⟨hs.atRest rfl, hfeeds, ⟨bs, hrefreshed⟩, hlog⟩

end State

/-! ## What there is in the end -/

/-- What there is after a listing was given feeds for the URLs, and these were read. -/
structure Renewed (w : Conditions) (before after : Store) (listing : Int) (urls : List String)
    (feeds : List Feed) : Prop where
  /-- There is a feed for each URL that was named. -/
  urls_iff : ∀ url, url ∈ feeds.map (·.url) ↔ url ∈ urls
  /-- It is one feed, and the feeds come in the order in which the URLs were named first. -/
  order : (feeds.map (·.url)).Pairwise fun u v => urls.idxOf u < urls.idxOf v
  own : ∀ f ∈ feeds, f.listing = listing
  ids : (feeds.map (·.id)).Nodup
  /-- No row had one of the identifiers. -/
  free : ∀ f ∈ feeds, (∀ g ∈ before.feeds, g.id ≠ f.id) ∧ ∀ b ∈ before.blocks, b.id ≠ f.id
  shown : after.findFeeds (some listing) = feeds
  read : ∀ url ∈ urls, w.lost listing url = false →
    after.ranges listing url = State.periodsOf (w.docs url)
  lost : ∀ url ∈ urls, w.lost listing url = true →
    after.blocksOf listing url = before.blocksOf listing url
  named : ∀ b ∈ after.blocks, b.listing = listing → b.url ∈ urls
  otherFeeds : after.feeds.filter (·.listing != listing) =
    before.feeds.filter (·.listing != listing)
  otherBlocks : after.blocks.filter (·.listing != listing) =
    before.blocks.filter (·.listing != listing)

section

variable {w : Conditions} {before after : Store} {listing : Int} {urls : List String}
  {bs : List (List Block)}

theorem mem_urls_newFeeds {n : Nat} {url : String} :
    (∃ f ∈ Store.newFeeds n listing (distinct urls), f.url = url) ↔ url ∈ urls := by
  rw [← List.mem_map, Store.newFeeds_urls, mem_distinct]

/-- The blocks of a URL are replaced if it was named and its write goes through. -/
theorem renews_newFeeds {n : Nat} {url : String} :
    w.renews (Store.newFeeds n listing (distinct urls)) listing url = true ↔
      w.lost listing url = false ∧ url ∈ urls := by
  constructor
  · intro h
    obtain ⟨hlost, f, hf, -, hurl⟩ := w.renews_eq_true h
    exact ⟨hlost, mem_urls_newFeeds.mp ⟨f, hf, hurl⟩⟩
  · rintro ⟨hlost, hurl⟩
    obtain ⟨f, hf, rfl⟩ := mem_urls_newFeeds.mpr hurl
    have hlisting : f.listing = listing := (Store.mem_newFeeds hf).1
    have hrenews := w.renews_of_mem hf
    rwa [hlisting, hlost] at hrenews

/-- Only the blocks of the listing are replaced. -/
theorem renews_other {n : Nat} {other : Int} (hother : other ≠ listing) (url : String) :
    w.renews (Store.newFeeds n listing (distinct urls)) other url = false := by
  refine Bool.eq_false_iff.mpr fun h => ?_
  obtain ⟨-, f, hf, hlisting, -⟩ := w.renews_eq_true h
  exact hother (hlisting.symm.trans (Store.mem_newFeeds hf).1)

/-- So the blocks of other listings are among those that are not replaced. -/
theorem filter_other (n : Nat) (blocks : List Block) :
    (blocks.filter fun b =>
      !w.renews (Store.newFeeds n listing (distinct urls)) b.listing b.url).filter
        (·.listing != listing) = blocks.filter (·.listing != listing) := by
  rw [List.filter_filter]
  refine List.filter_congr fun b _ => ?_
  by_cases hb : b.listing = listing
  · simp [hb]
  · simp [renews_other hb]

/-- A URL whose blocks are not replaced has what replacing the feeds has left. -/
theorem Refreshed.blocksOf_left {url : String}
    (h : Refreshed w (Store.newFeeds before.fresh listing (distinct urls))
      (before.replaceFeeds listing (distinct urls)).1 after bs)
    (hurl : w.lost listing url = true ∨ url ∉ urls) :
    after.blocksOf listing url = if url ∈ urls then before.blocksOf listing url else [] := by
  have hold : w.renews (Store.newFeeds before.fresh listing (distinct urls)) listing url = false := by
    refine Bool.eq_false_iff.mpr fun hrenews => ?_
    obtain ⟨hlost, hnamed⟩ := renews_newFeeds.mp hrenews
    rcases hurl with hurl | hurl
    · exact Bool.false_ne_true (hlost.symm.trans hurl)
    · exact hurl hnamed
  rw [h.blocksOf_eq hold, Store.blocksOf_replaceFeeds]
  exact if_congr mem_distinct rfl rfl

theorem Refreshed.renewed (hused : before.UsedUp)
    (h : Refreshed w (before.replaceFeeds listing (distinct urls)).2
      (before.replaceFeeds listing (distinct urls)).1 after bs) :
    Renewed w before after listing urls (before.replaceFeeds listing (distinct urls)).2 := by
  have hnew : (before.replaceFeeds listing (distinct urls)).2 =
      Store.newFeeds before.fresh listing (distinct urls) := rfl
  rw [hnew] at h ⊢
  constructor
  case urls_iff =>
    intro url
    rw [Store.newFeeds_urls, mem_distinct]
  case order =>
    rw [Store.newFeeds_urls]
    exact pairwise_distinct urls
  case own => exact fun f hf => (Store.mem_newFeeds hf).1
  case ids =>
    rw [Store.newFeeds_ids]
    exact List.nodup_range'
  case free => exact fun f hf => hused.ne_of_mem_newFeeds hf
  case shown => rw [Store.findFeeds_congr h.feeds_eq, Store.findFeeds_replaceFeeds]
  case read =>
    intro url hurl hlost
    rw [h.ranges_eq, if_pos (renews_newFeeds.mpr ⟨hlost, hurl⟩)]
  case lost =>
    intro url hurl hlost
    rw [h.blocksOf_left (.inl hlost), if_pos hurl]
  case named =>
    intro b hb hlisting
    by_contra hurl
    have hmem : b ∈ after.blocksOf listing b.url := List.mem_filter.mpr ⟨hb, by simp [hlisting]⟩
    rw [h.blocksOf_left (.inr hurl), if_neg hurl] at hmem
    cases hmem
  case otherFeeds => rw [h.feeds_eq, Store.filter_feeds_replaceFeeds]
  case otherBlocks =>
    rw [← filter_other (w := w) before.fresh after.blocks, h.kept, filter_other,
      Store.filter_blocks_replaceFeeds]

end

/-! ## In a service -/

theorem State.Move.usedUp {size : Nat} {s s' : State} {e : Event} (hs : s.store.UsedUp)
    (h : Move size s e s') : s'.store.UsedUp := by
  cases h with
  | list _ _ hlist =>
    rcases State.listFeeds_eq_ok hlist with ⟨listing, urls, rfl, -, he⟩ | ⟨_, -, -, rfl, -⟩
    · obtain ⟨rfl, -⟩ := Prod.mk.inj he
      exact hs.replaceFeeds listing _
    · exact hs
  | advance _ _ ha =>
    cases ha with
    | write _ _ => exact hs.replaceBlocks _ _ _
    | _ => exact hs
  | _ => exact hs

namespace Service

/-- In a service that has come to rest nobody is in another's way, the URLs of every listing are different
and the identifiers of all rows are used up. -/
theorem atRest_of_run? {batchSize interval : Nat} {signals : List (Nat × Signal)} {v : Service}
    (h : (create batchSize interval).run? signals = some v)
    (hover : ∀ k ∈ v.sync.calls, k.isOver = true) :
    v.sync.AtRest ∧ v.sync.store.Distinct ∧ v.sync.store.UsedUp := by
  obtain ⟨es, hes⟩ := run?_sync h
  have horderly : State.empty.Orderly := State.orderly_of_calls_nil rfl rfl
  have hgrounded : State.empty.Grounded := State.grounded_of_calls_nil Store.numbered_empty rfl
  have hsound : State.empty.Sound := ⟨Store.sound_empty, State.everyPass_of_calls_nil rfl⟩
  refine ⟨⟨(hgrounded.run horderly hes).1, hover⟩,
    (hsound.run horderly hgrounded hes).store.distinct, ?_⟩
  exact State.run?_induction (motive := fun s => s.store.UsedUp)
    (fun hs h => (State.step?_move h).usedUp hs) Store.usedUp_empty hes

/-- Whatever calls and background passes have done to the store of a service, once they are over: a call
that gives a listing feeds for some web addresses and runs alone returns, after a number of steps that
the addresses bound, if the store replaces the feeds; and this for every size of batches, every order of
steps, all documents and whatever writes fail. It returns a feed with a free identifier for each address,
in the order in which they were named first, and these are the feeds of the listing from then on. Each
address was sent for once. Where its blocks were written they have the periods of its document, else they
are those it had before; blocks of other addresses are gone, and other listings are left alone. -/
theorem new_feeds_alone {batchSize interval : Nat} {signals : List (Nat × Signal)} {v : Service}
    (h : (create batchSize interval).run? signals = some v)
    (hover : ∀ k ∈ v.sync.calls, k.isOver = true) {urls : List String}
    (hurls : ∀ url ∈ urls, isWebUrl url = true) (size : Nat) (w : Conditions) (listing : Int) :
    (∀ es s, State.Along size (State.Grants w) (v.sync.submit (.setFeeds listing urls)) es →
      (v.sync.submit (.setFeeds listing urls)).run? size es = some s →
      es.length ≤ 6 * (distinct urls).length + 2 ∧
        ∃ fs feeds s', State.Replaces size w v.sync listing urls (es ++ fs) feeds s') ∧
    ∀ es feeds s, State.Replaces size w v.sync listing urls es feeds s →
      s.AtRest ∧ Renewed w v.sync.store s.store listing urls feeds ∧
        ((v.sync.submit (.setFeeds listing urls)).fetches size es).Perm (feeds.map (·.url)) := by
  obtain ⟨hrest, hd, hused⟩ := atRest_of_run? h hover
  refine ⟨fun es s hes hrun => ?_, fun es feeds s hrun => ?_⟩
  · obtain ⟨-, -, -, hle⟩ := hrest.run_renewing hd hurls hes hrun
    exact ⟨hle, hrest.exists_replaces hd hurls hes hrun⟩
  · obtain ⟨hrest', rfl, ⟨bs, hrefreshed⟩, hlog⟩ := hrun.renewed hrest hd hurls
    exact ⟨hrest', hrefreshed.renewed hused, hlog⟩

def furnishing : List (Nat × Signal) :=
  [(0, .call (.submit (.setFeeds 1 ["http://a", "http://b"]))), (0, .call (.list 0 [])),
    (1, .call (.send 0 0)), (1, .call (.send 0 1)), (2, .call (.receive 0 1 State.oneDay)),
    (2, .call (.write 0 1 [])), (3, .call (.receive 0 0 State.oneDay)), (3, .call (.write 0 0 [])),
    (3, .call (.turn 0)), (4, .call (.submit (.setFeeds 2 ["http://b"]))), (4, .call (.list 1 [])),
    (4, .call (.send 1 0)), (5, .call (.receive 1 0 State.oneDay)), (5, .call (.write 1 0 [])),
    (5, .call (.turn 1))]

def stuck : Conditions := ⟨fun _ => State.oneDay, fun _ url => url == "http://b"⟩

/-- The first listing is given a URL that it had, twice, and a new one. -/
def refurnishing : List Event :=
  [.list 2 [], .send 2 0, .send 2 1, .receive 2 1 State.oneDay, .write 2 1 [],
    .receive 2 0 State.oneDay, .write 2 0 [.replaceBlocks], .turn 2]

/-- The URL that goes on has the block that could not be replaced, the new one has been read. -/
theorem refurnishing_renewed : ∃ v s,
    (create 2 1000).run? furnishing = some v ∧ (∀ k ∈ v.sync.calls, k.isOver = true) ∧
    v.sync.store.blocks.map (fun b => (b.id, b.listing, b.url)) =
      [(2, 1, "http://b"), (3, 1, "http://a"), (5, 2, "http://b")] ∧
    State.Replaces 2 stuck v.sync 1 ["http://b", "http://c", "http://b"] refurnishing
      [⟨6, 1, "http://b"⟩, ⟨7, 1, "http://c"⟩] s ∧
    s.store.blocks.map (fun b => (b.id, b.listing, b.url)) =
      [(2, 1, "http://b"), (5, 2, "http://b"), (8, 1, "http://c")] ∧
    Renewed stuck v.sync.store s.store 1 ["http://b", "http://c", "http://b"]
      [⟨6, 1, "http://b"⟩, ⟨7, 1, "http://c"⟩] ∧
    ((v.sync.submit (.setFeeds 1 ["http://b", "http://c", "http://b"])).fetches 2 refurnishing).Perm
      ["http://b", "http://c"] := by
  have hv : ((create 2 1000).run? furnishing).any (fun v =>
      (∀ k ∈ v.sync.calls, k.isOver = true) ∧
      v.sync.store.blocks.map (fun b => (b.id, b.listing, b.url)) =
        [(2, 1, "http://b"), (3, 1, "http://a"), (5, 2, "http://b")] ∧
      State.Along 2 (State.Grants stuck)
        (v.sync.submit (.setFeeds 1 ["http://b", "http://c", "http://b"])) refurnishing ∧
      ((v.sync.submit (.setFeeds 1 ["http://b", "http://c", "http://b"])).run? 2 refurnishing).any
        (fun s => s.calls[v.sync.calls.length]? = some
            ⟨.setFeeds 1 ["http://b", "http://c", "http://b"],
              .finished (.feeds [⟨6, 1, "http://b"⟩, ⟨7, 1, "http://c"⟩])⟩ ∧
          s.store.blocks.map (fun b => (b.id, b.listing, b.url)) =
            [(2, 1, "http://b"), (5, 2, "http://b"), (8, 1, "http://c")])) = true := by
    decide
  obtain ⟨v, hrun, hv⟩ := (Option.any_eq_true _ _).mp hv
  obtain ⟨hover, hbefore, halong, hs⟩ := of_decide_eq_true hv
  obtain ⟨s, hcall, hs⟩ := (Option.any_eq_true _ _).mp hs
  obtain ⟨hreturned, hafter⟩ := of_decide_eq_true hs
  have hreplaces : State.Replaces 2 stuck v.sync 1 _ refurnishing _ s := ⟨halong, hcall, hreturned⟩
  obtain ⟨-, hrenewed, hsent⟩ :=
    (new_feeds_alone hrun hover (by decide) 2 stuck 1).2 _ _ s hreplaces
  exact ⟨v, s, hrun, hover, hbefore, hreplaces, hafter, hrenewed, hsent⟩

end Service

end Lodging.Sync
