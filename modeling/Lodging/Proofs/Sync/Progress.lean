import Lodging.Proofs.Sync.Account
import Lodging.Proofs.Sync.Handover

/-! # Work in progress

Between two steps the store agrees on a listing with a serial one that has done all finished stints on
it, except for what the holder of the lock has done already (`Progress`): the feeds that a call has
listed and those of them that it has filled. When the holder gives the lock back, it has done and
returned just what its stint does by itself. -/

namespace Lodging.Sync.State

open Calendar

/-- How the store compares with the serial store `t`, while a party has the lock of the listing. -/
inductive Progress (s : State) (a : Account) (listing : Int) (t : Store) : Option Party → Prop
  | free : SameAt listing s.store t → Progress s a listing t none
  | waiting {c : Nat} {r : Request} : s.calls[c]? = some ⟨r, .waiting⟩ →
      r.listing? = some listing → SameAt listing s.store t → Progress s a listing t (some ⟨c, none⟩)
  | passing {c : Nat} {r : Request} {feeds : List Feed} {p : Pass} {t' : Store} :
      s.calls[c]? = some ⟨r, .passing feeds p⟩ → r.listing? = some listing →
      listFeeds { t with fresh := (a.opening c).fresh } (a.opening c).down r = .ok (t', feeds) →
      Filling listing t' feeds (a.supply c) (fun n => (p.stageAt n).blocks?.isSome) s.store →
      Progress s a listing t (some ⟨c, none⟩)
  | feed {c i : Nat} {r : Request} {feeds : List Feed} {p : Pass} {f : Feed} {st : Stage} :
      s.calls[c]? = some ⟨r, .passing feeds p⟩ → r.guarded = true →
      p.batch[i]? = some ⟨f, st⟩ → st.wantsLock = true → f.listing = listing →
      (st.isCleared = true → ask (a.supply c (p.results.length + i)).recheck .findFeeds
        (isRegistered t f) = .ok true) →
      SameAt listing s.store t → Progress s a listing t (some ⟨c, some i⟩)

variable {size : Nat} {s s' : State} {e : Event} {a : Account} {listing : Int} {t : Store}

/-- Who has not begun has changed nothing. -/
theorem Progress.of_not_inside (ho : s.Orderly) {o : Party}
    (hown : s.locks.owner? listing = some o) (hin : s.isInside o = false)
    (hst : SameAt listing s.store t) : Progress s a listing t (some o) := by
  have hw := (ho.owner?_eq_some_iff.mp hown).2
  obtain ⟨c, j⟩ := o
  obtain ⟨⟨r, phase⟩, hc, hw⟩ := Option.bind_eq_some_iff.mp hw
  simp only [isInside, hc, Option.any_some] at hin
  cases j with
  | none =>
    cases phase with
    | waiting => exact .waiting hc hw hst
    | passing feeds p =>
      rw [show Call.isInside ⟨r, .passing feeds p⟩ none = r.listing?.isSome from rfl,
        show r.listing? = some listing from hw] at hin
      cases hin
    | finished o => cases hw
    | dropped => cases hw
  | some i =>
    cases phase with
    | waiting => cases hw
    | finished o => cases hw
    | dropped => cases hw
    | passing feeds p =>
      obtain ⟨⟨f, st⟩, hb, hw⟩ := Option.bind_eq_some_iff.mp hw
      have hp := (ho.regular c _ hc).pass feeds p rfl
      split at hw
      · next hwants =>
        refine .feed hc ?_ hb hwants (Option.some.inj hw) (fun hcl => ?_) hst
        · by_contra hg
          have := hp.unguarded (by simpa using hg) _ (List.mem_of_getElem? hb)
          rw [hwants] at this
          cases this
        · simp only [Call.isInside, hb, Option.any_some] at hin
          rw [hcl] at hin
          cases hin
      · cases hw

/-- The steps of other calls leave the progress of the holder as it is. -/
theorem Progress.of_ne {o : Option Party} (h : Progress s a listing t o) (hm : Move size s e s')
    (ho : s.Orderly) (hg : s.Grounded) (hown : s.locks.owner? listing = o)
    (hne : ∀ q, o = some q → caller? e ≠ some q.call) :
    Progress s' (a.note s e) listing t o := by
  have hsame : SameAt listing s'.store s.store :=
    hm.sameAt ho hg fun q hq => hne q (hown.symm.trans hq)
  cases h with
  | free hst => exact .free (hsame.trans hst)
  | waiting hc hl hst =>
    exact .waiting (hm.calls_of_ne hc (hne _ rfl)) hl (hsame.trans hst)
  | passing hc hl hlist hfill =>
    obtain ⟨hopening, hsupply⟩ := note_of_ne a s (hne _ rfl)
    exact .passing (hm.calls_of_ne hc (hne _ rfl)) hl (by rw [hopening]; exact hlist)
      (by rw [hsupply]; exact hfill.of_sameAt hsame)
  | feed hc hgd hb hw hl hcl hst =>
    obtain ⟨-, hsupply⟩ := note_of_ne a s (hne _ rfl)
    exact .feed (hm.calls_of_ne hc (hne _ rfl)) hgd hb hw hl (by rw [hsupply]; exact hcl)
      (hsame.trans hst)

theorem Progress.grant {o : Option Party} (h : Progress s a listing t o) (s₁ s₂ : State) :
    Progress s (a.grant s₁ s₂) listing t o := by
  cases h with
  | free hst => exact .free hst
  | waiting hc hl hst => exact .waiting hc hl hst
  | passing hc hl hlist hfill => exact .passing hc hl hlist hfill
  | feed hc hgd hb hw hl hcl hst => exact .feed hc hgd hb hw hl hcl hst

/-! ## What a write is -/

section Writes

variable {c i : Nat} {r : Request} {feeds : List Feed} {p : Pass} {ps : List Period}
  {down : Outage}

/-- A write fills its feed with what the account says. -/
theorem fill_of_write (feed : Feed) (hc : s.calls[c]? = some ⟨r, .passing feeds p⟩)
    (hread : ps = periodsOf (a.supply c (p.results.length + i)).download)
    (hd : Access.replaceBlocks ∉ down) :
    fill s.store feed ((a.note s (.write c i down)).supply c (p.results.length + i)) =
      s.store.replaceBlocks feed.listing feed.url ps := by
  rw [Account.note, supply_note_at a hc, fill_of_not_mem hd, hread]

theorem fill_of_fail (a : Account) (feed : Feed) (i : Nat)
    (hc : s.calls[c]? = some ⟨r, .passing feeds p⟩) (hd : Access.replaceBlocks ∈ down) :
    fill s.store feed ((a.note s (.write c i down)).supply c (p.results.length + i)) =
      (s.store, []) := by
  rw [Account.note, supply_note_at a hc, fill_of_mem hd]

end Writes

/-! ## The steps of the holder -/

def Served (s : State) (a : Account) (listing : Int) (t : Store) (w : Stint) : Prop :=
  SameAt listing s.store (serve t (a.job w)).1 ∧ s.answer? w = some (serve t (a.job w)).2

/-- With a step the holder goes on, or gives the lock back and is done. -/
def GoesOn (s s' : State) (a' : Account) (listing : Int) (t : Store) (o : Party) : Prop :=
  s'.locks.owner? listing = some o ∧ s'.stint o = s.stint o ∧
    Progress s' a' listing t (some o) ∨
  s'.locks.owner? listing ≠ some o ∧ Served s' a' listing t (s.stint o)

theorem not_owner?_release (ho : s.Orderly) {q : Party → Bool} {o : Party} (hq : q o = true) :
    (s.locks.release q).owner? listing ≠ some o := fun h => by
  rw [(ho.locks.asked?_of_owner?_release h).1] at hq
  cases hq

theorem opening_note_list (a : Account) {c : Nat} {r : Request} {phase : Phase}
    (hc : s.calls[c]? = some ⟨r, phase⟩) (down : Outage) :
    ((a.note s (.list c down)).opening c).request = r ∧
      ((a.note s (.list c down)).opening c).down = down ∧
      ((a.note s (.list c down)).opening c).fresh = s.store.fresh := by
  simp [Account.note, opening, hc]

/-- A call that waits lists its feeds, or fails to and is done. -/
theorem goesOn_of_waiting (ho : s.Orderly) (hm : Move size s e s') (hdrop : ∀ d, e ≠ .drop d)
    {c : Nat} {r : Request} (hc : s.calls[c]? = some ⟨r, .waiting⟩) (hl : r.listing? = some listing)
    (hst : SameAt listing s.store t) (hown : s.locks.owner? listing = some ⟨c, none⟩)
    (he : caller? e = some c) : GoesOn s s' (a.note s e) listing t ⟨c, none⟩ := by
  have hstart : SameAt listing s.store { t with fresh := s.store.fresh } :=
    hst.trans (SameAt.withFresh listing t s.store.fresh).symm
  cases hm with
  | refuse _ => cases he
  | join _ _ => cases he
  | enter _ _ => cases he
  | drop _ _ => exact absurd rfl (hdrop _)
  | advance hd _ ha => cases he.symm.trans ha.caller?; cases hc.symm.trans hd
  | next hd _ _ => cases he; cases hc.symm.trans hd
  | finish hd _ _ => cases he; cases hc.symm.trans hd
  | @list d r' down store feeds hd hmay hlist =>
    cases he
    cases hc.symm.trans hd
    obtain ⟨-, hdown, hfresh⟩ := opening_note_list a hc down
    rcases hstart.listFeeds rfl down hl with ⟨s₁, t₁, fs, hs₁, ht₁, hsame⟩ | ⟨err, hs₁, -⟩
    · cases hlist.symm.trans hs₁
      refine .inl ⟨hown, rfl, .passing (calls_set_self hc _) hl ?_ (.start hsame fun n => ?_)⟩
      · rw [hdown, hfresh, ht₁]
      · rw [Pass.stageAt_start]
        rfl
    · cases hlist.symm.trans hs₁
  | @listFail d r' down err hd hmay hlist =>
    cases he
    cases hc.symm.trans hd
    obtain ⟨hreq, hdown, hfresh⟩ := opening_note_list a hc down
    refine .inr ⟨not_owner?_release ho (by simp), ?_⟩
    have hserve : serve t ((a.note s (.list c down)).job ⟨c, none⟩) = (t, .failed err) := by
      rcases hstart.listFeeds rfl down hl with ⟨s₁, t₁, fs, hs₁, -⟩ | ⟨err', hs₁, ht₁⟩
      · cases hlist.symm.trans hs₁
      · cases hlist.symm.trans hs₁
        simp only [Account.job, serve, hreq, hdown, hfresh, ht₁]
    rw [stint, Option.map_none, Served, hserve]
    exact ⟨hst, by simp [answer?, calls_set_self hc, Call.outcome?]⟩

section Passing

variable {c i : Nat} {r : Request} {feeds : List Feed} {p : Pass} {feed : Feed} {st st' : Stage}
  {store t' : Store} {locks : Locks Party}

theorem filled_setStage (hb : p.batch[i]? = some ⟨feed, st⟩) (hst : st.blocks? = none) (n : Nat) :
    ((p.setStage i st').stageAt n).blocks?.isSome =
      (n == p.results.length + i && st'.blocks?.isSome || (p.stageAt n).blocks?.isSome) := by
  rw [Pass.stageAt_setStage hb]
  by_cases hn : n = p.results.length + i
  · rw [if_pos hn, hn, Pass.stageAt_batch hb, hst]
    simp
  · simp [hn]

/-- A feed of a call on one listing is filled or left alone. -/
theorem filling_advance (hp : p.Regular r.guarded feeds) (hr : r.guarded = false)
    (hc : s.calls[c]? = some ⟨r, .passing feeds p⟩) (hb : p.batch[i]? = some ⟨feed, st⟩)
    (ha : s.Advance c i p feed e st st' store locks) (htell : Tells a c r feeds p)
    (hd : (feeds.map (·.url)).Nodup) (hl : ∀ f ∈ feeds, f.listing = listing)
    (h : Filling listing t' feeds (a.supply c) (fun n => (p.stageAt n).blocks?.isSome) s.store) :
    Filling listing t' feeds ((a.note s e).supply c)
      (fun n => ((p.setStage i st').stageAt n).blocks?.isSome) store := by
  have hplace : (p.stageAt (p.results.length + i)).blocks?.isSome = false := by
    rw [Pass.stageAt_batch hb, ha.not_done]
    rfl
  -- what is entered with the step is about the feed that is moved on
  have hentered : ∀ n, (p.stageAt n).blocks?.isSome = true →
      (a.note s e).supply c n = a.supply c n := fun n hn =>
    ha.supply_note hc a fun he => by rw [he, hplace] at hn; cases hn
  have hleft : st'.blocks? = none → store = s.store →
      Filling listing t' feeds ((a.note s e).supply c)
        (fun n => ((p.setStage i st').stageAt n).blocks?.isSome) store := fun hst' hstore =>
    hstore ▸ h.congr (fun n => by rw [filled_setStage hb ha.not_done, hst']; simp) hentered
  have hfilled : st'.blocks?.isSome = true →
      store = (fill s.store feed ((a.note s e).supply c (p.results.length + i))).1 →
      Filling listing t' feeds ((a.note s e).supply c)
        (fun n => ((p.setStage i st').stageAt n).blocks?.isSome) store := fun hst' hstore =>
    hstore ▸ (((h.congr (fun _ => rfl) hentered).fill hd (hp.feed_at hb)
      (hl feed (hp.feed_mem (List.mem_of_getElem? hb))) hplace).congr
        (fun n => by rw [filled_setStage hb ha.not_done, hst']; simp) fun _ _ => rfl)
  cases ha with
  | send => exact hleft rfl rfl
  | receive d => exact hleft rfl rfl
  | lineUp _ => exact hleft rfl rfl
  | clear _ _ => exact hleft rfl rfl
  | skip _ _ => cases hp.unguarded hr _ (List.mem_of_getElem? hb)
  | @write st ps down hw hnot =>
    have hread := htell.read (p.results.length + i) ps
      (by rw [Pass.stageAt_batch hb]; exact toWrite?_periods? hw)
    exact hfilled rfl (by rw [fill_of_write _ hc hread hnot])
  | fail _ hdown => exact hfilled rfl (by rw [fill_of_fail a _ i hc hdown])

/-- After its last batch a call on one listing returns what it would return by itself. -/
theorem outcomeOf_eq (hp : p.Regular r.guarded feeds) (hr : r.guarded = false)
    (htell : Tells a c r feeds p) {written : List (List Block)} (hw : p.written? = some written)
    (hrest : p.rest = []) (t' : Store) :
    p.results ++ written = (fillAll t' (entries feeds (a.supply c))).2 := by
  rw [fillAll_snd]
  refine List.ext_getElem? fun n => ?_
  rw [List.getElem?_map, getElem?_entries, Option.map_map]
  have hlen := hp.length_of_rest_nil hw hrest
  cases hn : feeds[n]? with
  | none =>
    rw [Option.map_none, List.getElem?_eq_none_iff, hlen]
    exact List.getElem?_eq_none_iff.mp hn
  | some f =>
    have hlt : n < (p.results ++ written).length := by
      rw [hlen]
      exact (List.getElem?_eq_some_iff.mp hn).1
    have hat := Pass.stageAt_of_written? hw n
    rw [List.getElem?_eq_getElem hlt] at hat
    rw [List.getElem?_eq_getElem hlt, htell.written hr n _ f hat hn]
    rfl

/-- A call on one listing moves its feeds on, batch by batch, until it returns. -/
theorem goesOn_of_passing (ho : s.Orderly) (hg : s.Grounded) (hf : Faithful s a)
    (hurls : s.store.Distinct) (hm : Move size s e s')
    (hdrop : ∀ d, e ≠ .drop d) (hc : s.calls[c]? = some ⟨r, .passing feeds p⟩)
    (hl : r.listing? = some listing)
    (hlist : listFeeds { t with fresh := (a.opening c).fresh } (a.opening c).down r =
      .ok (t', feeds))
    (hfill : Filling listing t' feeds (a.supply c) (fun n => (p.stageAt n).blocks?.isSome) s.store)
    (hown : s.locks.owner? listing = some ⟨c, none⟩) (he : caller? e = some c) :
    GoesOn s s' (a.note s e) listing t ⟨c, none⟩ := by
  have hp := (ho.regular c _ hc).pass feeds p rfl
  have hr : r.guarded = false := by simp [Request.guarded, hl]
  have htell := hf.passing c r feeds p hc
  have hrows := (hg.calls c _ hc).own feeds p listing rfl hl
  have hd : (feeds.map (·.url)).Nodup := hrows ▸ hurls listing
  have hlistings : ∀ f ∈ feeds, f.listing = listing := fun f hf =>
    (Store.mem_findFeeds_some.mp (hrows ▸ hf)).2
  cases hm with
  | refuse _ => cases he
  | join _ _ => cases he
  | enter _ _ => cases he
  | drop _ _ => exact absurd rfl (hdrop _)
  | list hd _ _ => cases he; cases hc.symm.trans hd
  | listFail hd _ _ => cases he; cases hc.symm.trans hd
  | advance hd' hb ha =>
    cases he.symm.trans ha.caller?
    cases hc.symm.trans hd'
    refine .inl ⟨ha.owner?_kept ho hc hb hown (by simp), rfl,
      .passing (calls_set_self hc _) hl ?_
        (filling_advance hp hr hc hb ha htell hd hlistings hfill)⟩
    rw [ha.opening_note, hlist]
  | next hd' hw _ =>
    cases he
    cases hc.symm.trans hd'
    refine .inl ⟨hown, rfl, .passing (calls_set_self hc _) hl hlist
      (hfill.congr (fun n => ?_) fun _ _ => rfl)⟩
    rw [Pass.stageAt_next hw]
  | @finish d r' feeds' p' written hd' hw hrest =>
    cases he
    cases hc.symm.trans hd'
    refine .inr ⟨not_owner?_release ho (by simp), ?_⟩
    have hall : ∀ n < feeds.length, (p.stageAt n).blocks?.isSome = true := fun n hn => by
      rw [← hp.length_of_rest_nil hw hrest] at hn
      rw [Pass.stageAt_of_written? hw, List.getElem?_eq_getElem hn]
      rfl
    have hserve : serve t (a.job ⟨c, none⟩) = ((fillAll t' (entries feeds (a.supply c))).1,
        Call.outcomeOf r feeds (p.results ++ written)) := by
      simp only [Account.job, serve, htell.request, hlist,
        outcomeOf_eq hp hr htell hw hrest t']
    rw [stint, Option.map_none, Served]
    change SameAt listing s.store (serve t (a.job ⟨c, none⟩)).1 ∧
      _ = some (serve t (a.job ⟨c, none⟩)).2
    rw [hserve]
    exact ⟨hfill.finish hd hlistings hall, by simp [answer?, calls_set_self hc, Call.outcome?]⟩

theorem answer?_of_done (hc : s.calls[c]? = some ⟨r, .passing feeds p⟩) (hr : r.guarded = true)
    (hb : p.batch[i]? = some ⟨feed, st⟩) (bs : List Block) :
    answer? ⟨store, locks, s.calls.set c ⟨r, .passing feeds (p.setStage i (.done bs))⟩⟩
      ⟨c, some (p.results.length + i)⟩ = some (.blocks [bs]) := by
  simp [answer?, calls_set_self hc, Call.blocksAt?, hr, Pass.stageAt_setStage hb, Stage.blocks?]

theorem job_of_feed (hp : p.Regular r.guarded feeds) (hb : p.batch[i]? = some ⟨feed, st⟩)
    (ha : s.Advance c i p feed e st st' store locks) (htell : Tells a c r feeds p) :
    (a.note s e).job ⟨c, some (p.results.length + i)⟩ =
      .feed feed ((a.note s e).supply c (p.results.length + i)) := by
  simp only [Account.job, ha.opening_note, htell.listed, hp.feed_at hb, Option.getD_some]

/-- A feed that was found is filled as it would be by itself. -/
theorem served_of_fill {m : Supply} {w : Stint} (hst : SameAt feed.listing s.store t)
    (hjob : a.job w = .feed feed m)
    (hfound : ask m.recheck .findFeeds (isRegistered t feed) = .ok true)
    (hstore : s'.store = (fill s.store feed m).1)
    (hans : s'.answer? w = some (.blocks [(fill s.store feed m).2])) :
    Served s' a feed.listing t w := by
  rw [Served, hjob, serve_feed hfound, hstore, hans, fill_snd, fill_snd]
  exact ⟨hst.fill feed m, rfl⟩

/-- A feed that has its lock is looked up, and then skipped or written. -/
theorem goesOn_of_advance (ho : s.Orderly) (hf : Faithful s a)
    (hc : s.calls[c]? = some ⟨r, .passing feeds p⟩) (hr : r.guarded = true)
    (hb : p.batch[i]? = some ⟨feed, st⟩) (hw : st.wantsLock = true)
    (hcl : st.isCleared = true → ask (a.supply c (p.results.length + i)).recheck .findFeeds
      (isRegistered t feed) = .ok true)
    (hst : SameAt feed.listing s.store t)
    (hown : s.locks.owner? feed.listing = some ⟨c, some i⟩)
    (ha : s.Advance c i p feed e st st' store locks) :
    GoesOn s ⟨store, locks, s.calls.set c ⟨r, .passing feeds (p.setStage i st')⟩⟩ (a.note s e)
      feed.listing t ⟨c, some i⟩ := by
  have hp := (ho.regular c _ hc).pass feeds p rfl
  have htell := hf.passing c r feeds p hc
  have hjob := job_of_feed hp hb ha htell
  have hstint : s.stint ⟨c, some i⟩ = ⟨c, some (p.results.length + i)⟩ := by
    simp [stint, place_eq hc]
  have hstint' : stint ⟨store, locks, s.calls.set c ⟨r, .passing feeds (p.setStage i st')⟩⟩
      ⟨c, some i⟩ = s.stint ⟨c, some i⟩ := by
    simp [stint, place_eq hc, place_eq (s := ⟨store, locks, _⟩) (calls_set_self hc _)]
    rfl
  -- a written feed was cleared, and what was entered when it was looked up is there still
  have hwritten : ∀ {ps : List Period} {down : Outage}, toWrite? p st = some ps →
      ask ((a.note s (.write c i down)).supply c (p.results.length + i)).recheck .findFeeds
        (isRegistered t feed) = .ok true := fun hps => by
    rw [Account.note, supply_note_at a hc]
    refine hcl ?_
    cases st with
    | cleared ps => rfl
    | fetched ps => cases hw
    | _ => cases hps
  cases ha with
  | send => cases hw
  | receive d => cases hw
  | lineUp _ => cases hw
  | @clear ps down hh hok =>
    have hbatch : (p.setStage i (.cleared ps)).batch[i]? = some ⟨feed, .cleared ps⟩ := by
      rw [Pass.getElem?_setStage hb, if_pos rfl]
    have hentered : (a.note s (.recheck c i down)).supply c (p.results.length + i) =
        { a.supply c (p.results.length + i) with recheck := down } := by
      rw [Account.note, supply_note_at a hc]
    refine .inl ⟨hown, hstint', .feed (calls_set_self hc _) hr hbatch rfl rfl (fun _ => ?_) hst⟩
    rw [show (p.setStage i (.cleared ps)).results = p.results from rfl, hentered,
      ← hst.isRegistered]
    exact hok
  | @skip ps down hh hno =>
    refine .inr ⟨not_owner?_release ho (by simp), ?_⟩
    have hserve : serve t (.feed feed ((a.note s (.recheck c i down)).supply c
        (p.results.length + i))) = (t, .blocks [[]]) := by
      rw [Account.note, supply_note_at a hc]
      exact serve_feed_of_ne (hst.isRegistered ▸ hno)
    rw [hstint, Served, hjob, hserve]
    exact ⟨hst, answer?_of_done hc hr hb []⟩
  | @write _ ps down hps hnot =>
    have hread := htell.read (p.results.length + i) ps
      (by rw [Pass.stageAt_batch hb]; exact toWrite?_periods? hps)
    have hfill := fill_of_write feed hc hread hnot
    refine .inr ⟨not_owner?_release ho (by simp), ?_⟩
    rw [hstint]
    exact served_of_fill hst hjob (hwritten hps) (by rw [hfill])
      (by rw [hfill]; exact answer?_of_done hc hr hb _)
  | @fail _ ps down hps hdown =>
    have hfill := fill_of_fail a feed i hc hdown
    refine .inr ⟨not_owner?_release ho (by simp), ?_⟩
    rw [hstint]
    exact served_of_fill hst hjob (hwritten hps) (by rw [hfill])
      (by rw [hfill]; exact answer?_of_done hc hr hb _)

/-- A feed that has its lock keeps it while other feeds of its batch move on. -/
theorem goesOn_of_feed (ho : s.Orderly) (hg : s.Grounded) (hf : Faithful s a)
    (hm : Move size s e s') (hdrop : ∀ d, e ≠ .drop d)
    (hc : s.calls[c]? = some ⟨r, .passing feeds p⟩) (hr : r.guarded = true)
    (hb : p.batch[i]? = some ⟨feed, st⟩) (hw : st.wantsLock = true)
    (hcl : st.isCleared = true → ask (a.supply c (p.results.length + i)).recheck .findFeeds
      (isRegistered t feed) = .ok true)
    (hst : SameAt feed.listing s.store t)
    (hown : s.locks.owner? feed.listing = some ⟨c, some i⟩) (he : caller? e = some c) :
    GoesOn s s' (a.note s e) feed.listing t ⟨c, some i⟩ := by
  have hnotWritten : ∀ {written : List (List Block)}, p.written? ≠ some written := fun hw' => by
    obtain ⟨bs, -, hdone⟩ := Pass.done_of_written? hw' (List.mem_of_getElem? hb)
    rw [show st = .done bs from hdone] at hw
    cases hw
  cases hm with
  | refuse _ => cases he
  | join _ _ => cases he
  | enter _ _ => cases he
  | drop _ _ => exact absurd rfl (hdrop _)
  | list hd _ _ => cases he; cases hc.symm.trans hd
  | listFail hd _ _ => cases he; cases hc.symm.trans hd
  | next hd hw' _ => cases he; cases hc.symm.trans hd; exact absurd hw' hnotWritten
  | finish hd hw' _ => cases he; cases hc.symm.trans hd; exact absurd hw' hnotWritten
  | @advance e d j r' feeds' p' feed' st₁ st₂ store locks hd hb' ha =>
    cases he.symm.trans ha.caller?
    cases hc.symm.trans hd
    by_cases hj : j = i
    · subst hj
      cases hb.symm.trans hb'
      exact goesOn_of_advance ho hf hc hr hb hw hcl hst hown ha
    · have hbatch : (p.setStage j st₂).batch[i]? = some ⟨feed, st⟩ := by
        rw [Pass.getElem?_setStage hb', if_neg (Ne.symm hj), hb]
      have hpg : p.guarded = true := ((ho.regular c _ hc).pass feeds p rfl).guarded_eq.trans hr
      have hne : s.locks.owner? feed.listing ≠ some ⟨c, if p.guarded then some j else none⟩ := by
        rw [hown, hpg]
        simpa using Ne.symm hj
      refine .inl ⟨ha.owner?_kept ho hc hb' hown (by simpa using Ne.symm hj), ?_,
        .feed (calls_set_self hc _) hr hbatch hw rfl ?_
          ((ha.sameAt ho hg hc hb' hne).trans hst)⟩
      · simp only [stint, Option.map_some, place_eq hc,
          place_eq (s := ⟨store, locks, _⟩) (calls_set_self hc _)]
        rfl
      · rw [show (p.setStage j st₂).results = p.results from rfl, ha.supply_note hc a (by omega)]
        exact hcl

end Passing

/-- Whatever step is made, the holder goes on or is done. -/
theorem Progress.step {o : Party} (h : Progress s a listing t (some o)) (ho : s.Orderly)
    (hg : s.Grounded) (hf : Faithful s a)
    (hurls : s.store.Distinct) (hm : Move size s e s')
    (hdrop : ∀ d, e ≠ .drop d) (hown : s.locks.owner? listing = some o) :
    GoesOn s s' (a.note s e) listing t o := by
  by_cases he : caller? e = some o.call
  · cases h with
    | waiting hc hl hst => exact goesOn_of_waiting ho hm hdrop hc hl hst hown he
    | passing hc hl hlist hfill =>
      exact goesOn_of_passing ho hg hf hurls hm hdrop hc hl hlist hfill hown he
    | feed hc hr hb hw hl hcl hst =>
      subst hl
      exact goesOn_of_feed ho hg hf hm hdrop hc hr hb hw hcl hst hown he
  · have hkeep := h.of_ne hm ho hg hown fun q hq => Option.some.inj hq ▸ he
    refine .inl ⟨hm.owner?_kept ho hown he, ?_, hkeep⟩
    cases h with
    | waiting _ _ _ => rfl
    | passing _ _ _ _ => rfl
    | feed hc _ _ _ _ _ _ =>
      simp only [stint, Option.map_some, place_eq hc, place_eq (hm.calls_of_ne hc he)]

end Lodging.Sync.State
