import Lodging.Proofs.Sync.Handover

/-! # New feeds come as a whole

Once any call has given a listing new feeds, the listing has just the feeds of one such call and no
blocks from other URLs: the feeds and blocks of two calls are never mixed. -/

namespace Lodging.Sync

open Calendar

def Call.Renews (k : Call) (listing : Int) (fs : List Feed) : Prop :=
  (∃ urls, k.request = .setFeeds listing urls) ∧
    ((∃ p, k.phase = .passing fs p) ∨ k.phase = .finished (.feeds fs))

/-- The listing has just these feeds, and no blocks from other URLs. -/
structure HasOnly (store : Store) (listing : Int) (fs : List Feed) : Prop where
  feeds : store.findFeeds (some listing) = fs
  blocks : ∀ url, url ∉ fs.map (·.url) → store.blocksOf listing url = []

theorem HasOnly.of_sameAt {store store' : Store} {listing : Int} {fs : List Feed}
    (h : HasOnly store listing fs) (hs : SameAt listing store' store) :
    HasOnly store' listing fs :=
  ⟨hs.feeds.trans h.feeds, fun url hu => (hs.blocks url).trans (h.blocks url hu)⟩

theorem HasOnly.replaceBlocks {store : Store} {listing : Int} {fs : List Feed}
    (h : HasOnly store listing fs) {f : Feed} (hf : f ∈ store.feeds) (ps : List Period) :
    HasOnly (store.replaceBlocks f.listing f.url ps).1 listing fs := by
  refine ⟨by rw [Store.findFeeds_replaceBlocks, h.feeds], fun url hu => ?_⟩
  rw [Store.blocksOf_replaceBlocks_of_ne, h.blocks url hu]
  rintro ⟨hl, rfl⟩
  refine hu (List.mem_map_of_mem ?_)
  rw [← h.feeds]
  exact Store.mem_findFeeds_some.mpr ⟨hf, hl.symm⟩

theorem hasOnly_replaceFeeds (store : Store) (listing : Int) (urls : List String) :
    HasOnly (store.replaceFeeds listing urls).1 listing (store.replaceFeeds listing urls).2 := by
  refine ⟨Store.findFeeds_replaceFeeds store listing urls, fun url hu => ?_⟩
  rw [show (store.replaceFeeds listing urls).2 = Store.newFeeds store.fresh listing urls from rfl,
    Store.newFeeds_urls] at hu
  rw [Store.blocksOf_replaceFeeds, if_neg hu]

namespace State

def RenewedBy (s : State) (listing : Int) (fs : List Feed) : Prop :=
  ∃ (c : Nat) (k : Call), s.calls[c]? = some k ∧ k.Renews listing fs

variable {size : Nat} {s s' : State} {e : Event} {listing : Int}

theorem renewedBy_append {store : Store} {locks : Locks Party} {k : Call} {fs : List Feed}
    (hk : ¬ k.Renews listing fs) :
    RenewedBy ⟨store, locks, s.calls ++ [k]⟩ listing fs ↔ s.RenewedBy listing fs := by
  constructor
  · rintro ⟨c, k', hc, hr⟩
    rw [calls_append] at hc
    split at hc
    · exact absurd (Option.some.inj hc ▸ hr) hk
    · exact ⟨c, k', hc, hr⟩
  · rintro ⟨c, k', hc, hr⟩
    exact ⟨c, k', (List.getElem?_append_left (List.getElem?_eq_some_iff.mp hc).1).trans hc, hr⟩

theorem renewedBy_set {store : Store} {locks : Locks Party} {c : Nat} {k₀ k : Call}
    {fs : List Feed} (hc : s.calls[c]? = some k₀)
    (hk : k.Renews listing fs ↔ k₀.Renews listing fs) :
    RenewedBy ⟨store, locks, s.calls.set c k⟩ listing fs ↔ s.RenewedBy listing fs := by
  constructor
  · rintro ⟨c', k', hc', hr⟩
    rw [calls_set hc] at hc'
    split at hc'
    · exact ⟨c, k₀, hc, hk.mp (Option.some.inj hc' ▸ hr)⟩
    · exact ⟨c', k', hc', hr⟩
  · rintro ⟨c', k', hc', hr⟩
    by_cases h : c' = c
    · subst h
      cases hc.symm.trans hc'
      exact ⟨c', k, calls_set_self hc k, hk.mpr hr⟩
    · exact ⟨c', k', by rw [calls_set hc, if_neg h, hc'], hr⟩

/-- If any call has given the listing new feeds, it has just the feeds of such a call. -/
def Renewed (s : State) (listing : Int) : Prop :=
  (∃ fs, s.RenewedBy listing fs) → ∃ fs, s.RenewedBy listing fs ∧ HasOnly s.store listing fs

theorem Renewed.of_iff (h : s.Renewed listing)
    (hcalls : ∀ fs, s'.RenewedBy listing fs ↔ s.RenewedBy listing fs)
    (hstore : ∀ fs, HasOnly s.store listing fs → HasOnly s'.store listing fs) :
    s'.Renewed listing := by
  rintro ⟨fs, hfs⟩
  obtain ⟨gs, hgs, hhas⟩ := h ⟨fs, (hcalls fs).mp hfs⟩
  exact ⟨gs, (hcalls gs).mpr hgs, hstore gs hhas⟩

theorem Renewed.move (h : s.Renewed listing) (ho : s.Orderly) (hg : s.Grounded)
    (hm : Move size s e s') (hdrop : ∀ d, e ≠ .drop d) : s'.Renewed listing := by
  cases hm with
  | refuse _ => exact h.of_iff (fun _ => renewedBy_append (by simp [Call.Renews])) fun _ h => h
  | join _ _ => exact h.of_iff (fun _ => renewedBy_append (by simp [Call.Renews])) fun _ h => h
  | enter _ _ => exact h.of_iff (fun _ => renewedBy_append (by simp [Call.Renews])) fun _ h => h
  | drop _ _ => exact absurd rfl (hdrop _)
  | @list c r down store feeds hc _ hlist =>
    rcases listFeeds_eq_ok hlist with ⟨other, urls, rfl, -, he⟩ | ⟨_, rfl, -, rfl, -⟩
    · obtain ⟨rfl, rfl⟩ := Prod.mk.inj he
      by_cases ho : other = listing
      · -- the call has just given the listing its feeds
        subst ho
        exact fun _ => ⟨_, ⟨c, _, calls_set_self hc _, ⟨urls, rfl⟩, .inl ⟨_, rfl⟩⟩,
          hasOnly_replaceFeeds _ _ _⟩
      · exact h.of_iff (fun _ => renewedBy_set hc (by simp [Call.Renews, ho])) fun _ h =>
          h.of_sameAt (SameAt.replaceFeeds_of_ne _ (Ne.symm ho) _)
    · exact h.of_iff (fun _ => renewedBy_set hc (by simp [Call.Renews])) fun _ h => h
  | listFail hc _ _ =>
    exact h.of_iff (fun _ => renewedBy_set hc (by simp [Call.Renews])) fun _ h => h
  | advance hc hb ha =>
    refine h.of_iff (fun _ => renewedBy_set hc (by simp [Call.Renews])) fun fs hfs => ?_
    cases ha with
    | write hw _ => exact hfs.replaceBlocks (hg.mem_of_toWrite? ho hc hb hw) _
    | _ => exact hfs
  | next hc _ _ => exact h.of_iff (fun _ => renewedBy_set hc (by simp [Call.Renews])) fun _ h => h
  | @finish c r feeds p written hc _ _ =>
    refine h.of_iff (fun fs => renewedBy_set hc ?_) fun _ h => h
    cases r with
    | setFeeds other urls => simp [Call.Renews, Call.outcomeOf, eq_comm]
    | refresh other => simp [Call.Renews]

theorem Renewed.of_finished (h : s.Renewed listing)
    (hret : ∀ k ∈ s.calls, ∃ o, k.phase = .finished o) {c : Nat} {urls : List String}
    {fs : List Feed} (hc : s.calls[c]? = some ⟨.setFeeds listing urls, .finished (.feeds fs)⟩) :
    ∃ (c' : Nat) (urls' : List String) (fs' : List Feed),
      s.calls[c']? = some ⟨.setFeeds listing urls', .finished (.feeds fs')⟩ ∧
      HasOnly s.store listing fs' := by
  obtain ⟨fs', ⟨c', ⟨r, phase⟩, hc', ⟨urls', hr⟩, hphase⟩, hhas⟩ :=
    h ⟨fs, c, _, hc, ⟨urls, rfl⟩, .inr rfl⟩
  cases hr
  obtain ⟨o, ho⟩ := hret _ (List.mem_of_getElem? hc')
  rcases hphase with ⟨p, hp⟩ | hp
  · cases ho.symm.trans hp
  · cases hp
    exact ⟨c', urls', fs', hc', hhas⟩

end State

end Lodging.Sync
