import Lodging.Proofs.Sync.Course
import Lodging.Proofs.Sync.Grounds
import Lodging.Proofs.Sync.Places

/-! # What is written for whom

Whenever blocks are written, the row of their feed is in the store, and the document they come from was
sent for when that very row was there already. Rows never come back once they were replaced, so a call
that listed them before can write nothing for them any more, and has no blocks to return for those it
had not written. -/

namespace Lodging.Sync.State

open Calendar

/-- Nothing is written for a feed that is not there. -/
theorem Grounded.mem_of_writes? {s : State} (hs : s.Grounded) (ho : s.Orderly) {c i : Nat}
    {feed : Feed} {ps : List Period} (h : s.writes? c i = some (feed, ps)) :
    feed ∈ s.store.feeds := by
  obtain ⟨p, st, hslot, hw⟩ := writes?_eq_some h
  obtain ⟨r, feeds, hc, hb⟩ := slot?_eq_some hslot
  exact hs.mem_of_toWrite? ho hc hb hw

/-! ## Rows do not come back -/

/-- A step uses identifiers up, and every row that it adds has one that was free. -/
theorem Move.rows {size : Nat} {s s' : State} {e : Event} (h : Move size s e s') :
    s.store.fresh ≤ s'.store.fresh ∧
      ∀ f ∈ s'.store.feeds, f.id < s.store.fresh → f ∈ s.store.feeds := by
  cases h with
  | list hc hm hlist =>
    rcases listFeeds_eq_ok hlist with ⟨listing, urls, rfl, -, he⟩ | ⟨listing, rfl, -, rfl, -⟩
    · obtain ⟨rfl, rfl⟩ := Prod.mk.inj he
      exact ⟨Nat.le_add_right _ _, fun f hf hlt => Store.mem_feeds_of_lt hf hlt⟩
    · exact ⟨Nat.le_refl _, fun _ hf _ => hf⟩
  | advance hc hb ha =>
    obtain ⟨hfeeds, hfresh⟩ := ha.feeds_eq
    exact ⟨hfresh, fun f hf _ => hfeeds ▸ hf⟩
  | _ => exact ⟨Nat.le_refl _, fun _ hf _ => hf⟩

/-- A row that was there in a later state and could be there before was there before. -/
theorem mem_feeds_of_run? {size : Nat} {s s' : State} {es : List Event} {f : Feed}
    (h : s.run? size es = some s') (hf : f.id < s.store.fresh) (hmem : f ∈ s'.store.feeds) :
    f ∈ s.store.feeds := by
  have := run?_induction
    (motive := fun t => s.store.fresh ≤ t.store.fresh ∧ (f ∈ t.store.feeds → f ∈ s.store.feeds))
    (fun ⟨hle, hback⟩ h =>
      have ⟨hle', hback'⟩ := (step?_move h).rows
      ⟨Nat.le_trans hle hle', fun hm => hback (hback' f hm (Nat.lt_of_lt_of_le hf hle))⟩)
    ⟨Nat.le_refl _, id⟩ h
  exact this.2 hmem

/-! ## Documents and their requests -/

/-- In the run the feed in a slot was sent for in the state `s₁`, and the batch is the same since. -/
def Sent (size : Nat) (s₀ : State) (es : List Event) (c i : Nat) (feed : Feed) (s₁ : State) :
    Prop :=
  ∃ es₁ es₂ p, es = es₁ ++ .send c i :: es₂ ∧ s₀.run? size es₁ = some s₁ ∧
    s₁.slot? c i = some (p, ⟨feed, .idle⟩) ∧ .turn c ∉ es₂

/-- The document came in after it was sent for, and the batch is the same since. -/
def Fetched (size : Nat) (s₀ : State) (es : List Event) (c i : Nat) (feed : Feed) (s₁ : State)
    (d : Download) : Prop :=
  ∃ es₁ es₂, es = es₁ ++ .receive c i d :: es₂ ∧ Sent size s₀ es₁ c i feed s₁ ∧ .turn c ∉ es₂

theorem Sent.snoc {size : Nat} {s₀ s₁ : State} {es : List Event} {c i : Nat} {feed : Feed}
    (h : Sent size s₀ es c i feed s₁) {e : Event} (he : e ≠ .turn c) :
    Sent size s₀ (es ++ [e]) c i feed s₁ := by
  obtain ⟨es₁, es₂, p, rfl, hrun, hslot, hturn⟩ := h
  exact ⟨es₁, es₂ ++ [e], p, by simp, hrun, hslot, by simp [hturn, he.symm]⟩

theorem Fetched.snoc {size : Nat} {s₀ s₁ : State} {es : List Event} {c i : Nat} {feed : Feed}
    {d : Download} (h : Fetched size s₀ es c i feed s₁ d) {e : Event} (he : e ≠ .turn c) :
    Fetched size s₀ (es ++ [e]) c i feed s₁ d := by
  obtain ⟨es₁, es₂, rfl, hsent, hturn⟩ := h
  exact ⟨es₁, es₂ ++ [e], by simp, hsent, by simp [hturn, he.symm]⟩

/-- Where the stage of a feed comes from: what is on its way was sent for, and what was read came in,
when the identifier of the feed was used up already. -/
structure Told (size : Nat) (s₀ : State) (es : List Event) (c i : Nat) (slot : Slot) : Prop where
  sent : slot.stage = .fetching →
    ∃ s₁, Sent size s₀ es c i slot.feed s₁ ∧ slot.feed.id < s₁.store.fresh
  fetched : ∀ ps, slot.stage.periods? = some ps →
    ∃ s₁ d, Fetched size s₀ es c i slot.feed s₁ d ∧ slot.feed.id < s₁.store.fresh ∧
      ps = periodsOf d

theorem Told.snoc {size : Nat} {s₀ : State} {es : List Event} {c i : Nat} {slot : Slot}
    (h : Told size s₀ es c i slot) {e : Event} (he : e ≠ .turn c) :
    Told size s₀ (es ++ [e]) c i slot where
  sent := fun hst =>
    have ⟨s₁, hs, hid⟩ := h.sent hst
    ⟨s₁, hs.snoc he, hid⟩
  fetched := fun ps hps =>
    have ⟨s₁, d, hf, hid, hd⟩ := h.fetched ps hps
    ⟨s₁, d, hf.snoc he, hid, hd⟩

theorem told_idle {size : Nat} {s₀ : State} {es : List Event} {c i : Nat} {slot : Slot}
    (h : slot.stage = .idle) : Told size s₀ es c i slot := by
  constructor <;> simp [h, Stage.periods?]

def Traced (size : Nat) (s₀ : State) (es : List Event) (s : State) : Prop :=
  s.EveryPass fun c _ _ p => ∀ i slot, p.batch[i]? = some slot → Told size s₀ es c i slot

/-- Where the next stage of a feed comes from. -/
theorem Told.advance {size : Nat} {s₀ s : State} {es : List Event}
    (hrun : s₀.run? size es = some s) {e : Event} {c i : Nat} {r : Request} {feeds : List Feed}
    {p : Pass} {feed : Feed} {st st' : Stage} {store : Store} {locks : Locks Party}
    (hc : s.calls[c]? = some ⟨r, .passing feeds p⟩) (hb : p.batch[i]? = some ⟨feed, st⟩)
    (hid : feed.id < s.store.fresh) (ht : Told size s₀ es c i ⟨feed, st⟩)
    (ha : s.Advance c i p feed e st st' store locks) :
    Told size s₀ (es ++ [e]) c i ⟨feed, st'⟩ := by
  cases ha with
  | send =>
    refine ⟨fun _ => ⟨s, ⟨es, [], p, rfl, hrun, ?_, by simp⟩, hid⟩, fun _ h => by cases h⟩
    simp [slot?, hc, hb]
  | receive d =>
    refine ⟨(fun h => by cases h), fun ps h => ?_⟩
    obtain ⟨s₁, hsent, hlt⟩ := ht.sent rfl
    exact ⟨s₁, d, ⟨es, [], rfl, hsent, by simp⟩, hlt, (Option.some.inj h).symm⟩
  | lineUp _ => exact ⟨(fun h => by cases h), (ht.snoc (by simp)).fetched⟩
  | clear _ _ => exact ⟨(fun h => by cases h), (ht.snoc (by simp)).fetched⟩
  | skip _ _ => exact ⟨(fun h => by cases h), fun _ h => by cases h⟩
  | write _ _ => exact ⟨(fun h => by cases h), fun _ h => by cases h⟩
  | fail _ _ => exact ⟨(fun h => by cases h), fun _ h => by cases h⟩

theorem Advance.ne_turn {s : State} {c i c' : Nat} {p : Pass} {feed : Feed} {e : Event}
    {st st' : Stage} {store : Store} {locks : Locks Party}
    (h : s.Advance c i p feed e st st' store locks) : e ≠ .turn c' := by
  cases h <;> simp

theorem Traced.move {size : Nat} {s₀ s s' : State} {es : List Event} {e : Event}
    (hs : Traced size s₀ es s) (hrun : s₀.run? size es = some s) (ho : s.Orderly)
    (hg : s.Grounded) (h : Move size s e s') : Traced size s₀ (es ++ [e]) s' := by
  refine EveryPass.move hs h (fun hne ht i slot hb => (ht i slot hb).snoc ?_)
    (fun _ _ _ i slot hb => told_idle (Pass.load_idle (List.mem_of_getElem? hb)))
    (fun {c i r feeds p feed st st' store locks} hc hb ha ht j slot hslot => ?_)
    (fun _ _ _ i slot hb => told_idle (Pass.load_idle (List.mem_of_getElem? hb)))
  · rintro rfl
    exact hne rfl
  · rw [Pass.getElem?_setStage hb] at hslot
    split at hslot
    · next hj =>
      have hfeed := ((ho.regular c _ hc).pass feeds p rfl).feed_mem (List.mem_of_getElem? hb)
      have hknows := (hg.calls c _ hc).knows feeds p rfl feed hfeed
      rw [← Option.some.inj hslot, hj]
      exact (ht i _ hb).advance hrun hc hb hknows.1 ha
    · exact (ht j slot hslot).snoc ha.ne_turn

theorem Traced.run {size : Nat} {store : Store} {s : State} {es : List Event}
    (hn : store.Numbered) (h : (quiet store).run? size es = some s) :
    Traced size (quiet store) es s := by
  have := run?_trace_induction
    (motive := fun es s => (quiet store).run? size es = some s ∧ s.Orderly ∧ s.Grounded ∧
      Traced size (quiet store) es s)
    (fun ⟨hrun, ho, hg, ht⟩ h =>
      have hm := step?_move h
      ⟨by rw [run?_append, hrun]; simp [run?, h], ho.move hm, hg.move ho hm, ht.move hrun ho hg hm⟩)
    [] ⟨rfl, orderly_of_calls_nil rfl rfl, grounded_of_calls_nil hn rfl,
      everyPass_of_calls_nil rfl⟩ h
  exact this.2.2.2

/-! ## Feeds that were replaced -/

/-- The call has `f` at a place of its list, and there it has written nothing so far. -/
def Leaves (k : Call) (n : Nat) (f : Feed) : Prop :=
  match k.phase with
  | .waiting => False
  | .passing feeds p => feeds[n]? = some f ∧ ∀ bs, p.stageAt n = .done bs → bs = []
  | .finished o => ∀ bs, o = .blocks bs → bs[n]? = some []
  | .dropped => True

/-- The row of a feed is gone for good, and a call leaves it as it is. -/
structure Stale (s : State) (c n : Nat) (f : Feed) : Prop where
  used : f.id < s.store.fresh
  gone : f ∉ s.store.feeds
  leaves : ∃ k, s.calls[c]? = some k ∧ Leaves k n f

/-- Nothing comes to a place where nothing may be written. -/
theorem Leaves.advance {s : State} (ho : s.Orderly) (hg : s.Grounded) {e : Event} {c i n : Nat}
    {r : Request} {feeds : List Feed} {p : Pass} {feed f : Feed} {st st' : Stage} {store : Store}
    {locks : Locks Party} (hc : s.calls[c]? = some ⟨r, .passing feeds p⟩)
    (hb : p.batch[i]? = some ⟨feed, st⟩) (hgone : f ∉ s.store.feeds)
    (hl : Leaves ⟨r, .passing feeds p⟩ n f) (ha : s.Advance c i p feed e st st' store locks) :
    Leaves ⟨r, .passing feeds (p.setStage i st')⟩ n f := by
  obtain ⟨hn, hdone⟩ := hl
  refine ⟨hn, fun bs h => ?_⟩
  rw [Pass.stageAt_setStage hb] at h
  split at h
  · next hi =>
    have hfeed : feed = f := by
      have := ((ho.regular c _ hc).pass feeds p rfl).feed_at hb
      rw [← hi, hn] at this
      exact (Option.some.inj this).symm
    cases ha with
    | skip _ _ => exact (Stage.done.inj h).symm
    | write hw _ => exact absurd (hfeed ▸ hg.mem_of_toWrite? ho hc hb hw) hgone
    | fail _ _ => exact (Stage.done.inj h).symm
    | _ => cases h
  · exact hdone bs h

theorem Leaves.finish {r : Request} {feeds : List Feed} {p : Pass} {written : List (List Block)}
    {n : Nat} {f : Feed} {guarded : Bool} (hp : p.Regular guarded feeds)
    (hw : p.written? = some written) (hr : p.rest = []) (hl : Leaves ⟨r, .passing feeds p⟩ n f) :
    Leaves ⟨r, .finished (Call.outcomeOf r feeds (p.results ++ written))⟩ n f := by
  obtain ⟨hn, hdone⟩ := hl
  intro bs hbs
  have hbs : p.results ++ written = bs := by
    cases r with
    | setFeeds listing urls => cases hbs
    | refresh listing => exact Outcome.blocks.inj hbs
  have hlt : n < bs.length := by
    rw [← hbs, hp.length_of_rest_nil hw hr]
    exact (List.getElem?_eq_some_iff.mp hn).1
  have hat := Pass.stageAt_of_written? hw n
  rw [hbs, List.getElem?_eq_getElem hlt] at hat
  rw [List.getElem?_eq_getElem hlt, hdone _ hat]

theorem Stale.move {size : Nat} {s s' : State} {e : Event} {c n : Nat} {f : Feed}
    (hs : s.Stale c n f) (ho : s.Orderly) (hg : s.Grounded) (h : Move size s e s') :
    s'.Stale c n f := by
  obtain ⟨hle, hback⟩ := h.rows
  have hgone : f ∉ s'.store.feeds := fun hf => hs.gone (hback f hf hs.used)
  obtain ⟨k, hk, hl⟩ := hs.leaves
  refine ⟨Nat.lt_of_lt_of_le hs.used hle, hgone, ?_⟩
  -- a call that comes in or another call that changes is not this one
  have happend : ∀ (k' : Call) (locks : Locks Party),
      ∃ k, (⟨s.store, locks, s.calls ++ [k']⟩ : State).calls[c]? = some k ∧ Leaves k n f := by
    intro k' locks
    exact ⟨k, by rw [List.getElem?_append_left (List.getElem?_eq_some_iff.mp hk).1, hk], hl⟩
  have hset : ∀ {d : Nat} {k₀ k₁ : Call}, s.calls[d]? = some k₀ →
      (Leaves k₀ n f → Leaves k₁ n f) → ∃ k, (s.calls.set d k₁)[c]? = some k ∧ Leaves k n f := by
    intro d k₀ k₁ hd himp
    rw [calls_set hd]
    split
    · next h => exact ⟨k₁, rfl, himp (by rw [← h, hk] at hd; exact Option.some.inj hd ▸ hl)⟩
    · exact ⟨k, hk, hl⟩
  cases h with
  | refuse _ => exact happend _ _
  | join _ _ => exact happend _ _
  | enter _ _ => exact happend _ _
  | list hd _ _ => exact hset hd fun h => h.elim
  | listFail hd _ _ => exact hset hd fun h => h.elim
  | advance hd hb ha => exact hset hd fun h => h.advance ho hg hd hb hs.gone ha
  | next hd hw _ => exact hset hd fun h => ⟨h.1, by simpa only [Pass.stageAt_next hw] using h.2⟩
  | @finish d r feeds p written hd hw hr =>
    exact hset hd fun h => h.finish ((ho.regular d _ hd).pass feeds p rfl) hw hr
  | drop hd _ => exact hset hd fun _ => trivial

theorem Stale.run {size : Nat} {s s' : State} {es : List Event} {c n : Nat} {f : Feed}
    (hs : s.Stale c n f) (ho : s.Orderly) (hg : s.Grounded) (h : s.run? size es = some s') :
    s'.Stale c n f := by
  have := run?_induction (motive := fun s => s.Orderly ∧ s.Grounded ∧ s.Stale c n f)
    (fun ⟨ho, hg, hs⟩ h =>
      have hm := step?_move h
      ⟨ho.move hm, hg.move ho hm, hs.move ho hg hm⟩) ⟨ho, hg, hs⟩ h
  exact this.2.2

/-- Once a call has given a listing new feeds, all rows that other calls had listed for it are gone. -/
theorem gone_of_replaced {size : Nat} {s s₁ : State} (hg : s.Grounded) {c : Nat} {listing : Int}
    {urls : List String} {down : Outage} {fs : List Feed} {q : Pass}
    (hc : s.calls[c]? = some ⟨.setFeeds listing urls, .waiting⟩)
    (hstep : s.step? size (.list c down) = some s₁)
    (hc₁ : s₁.calls[c]? = some ⟨.setFeeds listing urls, .passing fs q⟩)
    {d : Nat} {r : Request} {feeds : List Feed} {p : Pass} {f : Feed} (hd : d ≠ c)
    (hd₁ : s₁.calls[d]? = some ⟨r, .passing feeds p⟩) (hf : f ∈ feeds) (hl : f.listing = listing) :
    f.id < s₁.store.fresh ∧ f ∉ s₁.store.feeds := by
  generalize he : Event.list c down = e at hstep
  cases step?_move hstep with
  | @list c' r' down' store feeds' hc' _ hlist =>
    cases he
    rw [hc] at hc'
    cases hc'
    rcases listFeeds_eq_ok hlist with ⟨listing', urls', hr, -, hrep⟩ | ⟨_, hr, -⟩
    · cases hr
      obtain ⟨rfl, rfl⟩ := Prod.mk.inj hrep
      rw [calls_set hc, if_neg hd] at hd₁
      have hid := ((hg.calls d _ hd₁).knows feeds p rfl f hf).1
      refine ⟨Nat.lt_add_right _ hid, fun hmem => ?_⟩
      rcases Store.mem_feeds_replaceFeeds.mp hmem with ⟨-, hne⟩ | hnew
      · exact hne hl
      · have := (Store.mem_newFeeds hnew).2.2.1
        omega
    · cases hr
  | @listFail c' r' down' err hc' _ _ =>
    cases he
    simp only [calls_set hc', if_true, Option.some.injEq, Call.mk.injEq, reduceCtorEq,
      and_false] at hc₁
  | advance _ _ ha => cases ha <;> cases he
  | _ => cases he

/-- Whenever blocks are written, the row of the feed is in the store, and was there already when their
document was sent for. Once a call has given a listing new feeds, no other call writes for a feed that
it listed before, and one that it had not written then has no blocks in the end. -/
theorem writes_for_registered {size : Nat} {store : Store} {es : List Event} {s : State}
    (hn : store.Numbered) (h : (quiet store).run? size es = some s) :
    (∀ (c i : Nat) (feed : Feed) (ps : List Period), s.writes? c i = some (feed, ps) →
      feed ∈ s.store.feeds ∧ ∃ s₁ d, Fetched size (quiet store) es c i feed s₁ d ∧
        feed ∈ s₁.store.feeds ∧ ps = periodsOf d) ∧
    (∀ (c : Nat) (listing : Int) (urls : List String) (down : Outage) (s₁ : State)
        (fs : List Feed) (q : Pass), s.calls[c]? = some ⟨.setFeeds listing urls, .waiting⟩ →
      s.step? size (.list c down) = some s₁ →
      s₁.calls[c]? = some ⟨.setFeeds listing urls, .passing fs q⟩ →
      ∀ (d : Nat) (r : Request) (feeds : List Feed) (p : Pass) (n : Nat) (f : Feed), d ≠ c →
        s₁.calls[d]? = some ⟨r, .passing feeds p⟩ → feeds[n]? = some f → f.listing = listing →
        ∀ (es' : List Event) (s₂ : State), s₁.run? size es' = some s₂ →
          (∀ c' i ps, s₂.writes? c' i ≠ some (f, ps)) ∧
          ((∀ bs, p.stageAt n ≠ .done bs) → ∀ bs,
            s₂.calls[d]? = some ⟨r, .finished (.blocks bs)⟩ → bs[n]? = some [])) := by
  obtain ⟨ho, hg⟩ := quiet_run hn h
  constructor
  · intro c i feed ps hw
    have hmem := hg.mem_of_writes? ho hw
    obtain ⟨p, st, hslot, hps⟩ := writes?_eq_some hw
    obtain ⟨r, feeds, hc, hb⟩ := slot?_eq_some hslot
    obtain ⟨s₁, d, hfetched, hid, hd⟩ :=
      ((Traced.run hn h) c r feeds p hc i _ hb).fetched ps (toWrite?_periods? hps)
    -- the row was there when the document was sent for, since its identifier was used up then
    have ⟨es₁, es₂, he, ⟨es₃, es₄, q, he', hrun, _⟩, _⟩ := hfetched
    have hrest := h
    rw [he, he', List.append_assoc, run?_append, hrun, Option.bind_some] at hrest
    exact ⟨hmem, s₁, d, hfetched, mem_feeds_of_run? hrest hid hmem, hd⟩
  · intro c listing urls down s₁ fs q hc hstep hc₁ d r feeds p n f hd hd₁ hf hl es' s₂ hrun
    obtain ⟨hid, hgone⟩ := gone_of_replaced hg hc hstep hc₁ hd hd₁ (List.mem_of_getElem? hf) hl
    have hm := step?_move hstep
    have ho₁ := ho.move hm
    have hg₁ := hg.move ho hm
    obtain ⟨ho₂, hg₂⟩ := hg₁.run ho₁ hrun
    refine ⟨fun c' i ps hw => ?_, fun hnot bs hfin => ?_⟩
    · exact hgone (mem_feeds_of_run? hrun hid (hg₂.mem_of_writes? ho₂ hw))
    · have hstale : s₁.Stale d n f :=
        ⟨hid, hgone, _, hd₁, hf, fun bs h => absurd h (hnot bs)⟩
      obtain ⟨k, hk, hl⟩ := (hstale.run ho₁ hg₁ hrun).leaves
      rw [hfin] at hk
      cases hk
      exact hl bs rfl

def oneDay : Download :=
  .ok "BEGIN:VCALENDAR\nBEGIN:VEVENT\nDTSTART:20250701\nEND:VEVENT\nEND:VCALENDAR"

/-- All feeds are read while one listing gets its first feed and another its old URL anew. -/
def renewal : List Event :=
  [.submit (.setFeeds 1 ["http://a"]), .list 0 [], .send 0 0, .receive 0 0 oneDay, .write 0 0 [],
    .turn 0, .submit (.refresh none), .list 1 [], .send 1 0, .receive 1 0 oneDay,
    .submit (.setFeeds 2 ["http://b"]), .list 2 [], .send 2 0, .receive 2 0 oneDay,
    .submit (.setFeeds 1 ["http://a"])]

/-- The reading of all feeds ends after the feed with the old URL is written. -/
def renewed : List Event :=
  [.lineUp 1 0, .send 3 0, .receive 3 0 oneDay, .write 3 0 [], .turn 3, .recheck 1 0 [], .turn 1]

theorem renewal_writes_for_registered : ∃ s s₁ s₂ bs,
    (quiet .empty).run? 2 renewal = some s ∧ s.step? 2 (.list 3 []) = some s₁ ∧
    s₁.run? 2 renewed = some s₂ ∧ ⟨2, 2, "http://b"⟩ ∈ s.store.feeds ∧
    s₂.calls[1]? = some ⟨.refresh none, .finished (.blocks bs)⟩ ∧ bs[0]? = some [] := by
  have h : (((quiet .empty).run? 2 renewal).any fun s => (s.step? 2 (.list 3 [])).any fun s₁ =>
      (s₁.run? 2 renewed).any fun s₂ =>
        s.writes? 2 0 = some (⟨2, 2, "http://b"⟩, periodsOf oneDay) ∧
        s.calls[3]? = some ⟨.setFeeds 1 ["http://a"], .waiting⟩ ∧
        s₁.calls[3]? = some ⟨.setFeeds 1 ["http://a"], .passing [⟨3, 1, "http://a"⟩]
          (.start false 2 [⟨3, 1, "http://a"⟩])⟩ ∧
        s₁.calls[1]? = some ⟨.refresh none, .passing [⟨0, 1, "http://a"⟩]
          ((Pass.start true 2 [⟨0, 1, "http://a"⟩]).setStage 0 (.fetched (periodsOf oneDay)))⟩ ∧
        s₂.calls[1]? = some ⟨.refresh none, .finished (.blocks [[]])⟩) = true := by
    decide
  obtain ⟨s, hs, h⟩ := (Option.any_eq_true _ _).mp h
  obtain ⟨s₁, hs₁, h⟩ := (Option.any_eq_true _ _).mp h
  obtain ⟨s₂, hs₂, h⟩ := (Option.any_eq_true _ _).mp h
  obtain ⟨hw, h3, h3', h1, hfin⟩ := of_decide_eq_true h
  obtain ⟨hwrites, hstale⟩ := writes_for_registered Store.numbered_empty hs
  refine ⟨s, s₁, s₂, _, hs, hs₁, hs₂, (hwrites 2 0 _ _ hw).1, hfin, ?_⟩
  have hlater := hstale 3 1 _ [] s₁ _ _ h3 hs₁ h3' 1 _ _ _ 0 ⟨0, 1, "http://a"⟩ (by decide) h1
    rfl rfl renewed s₂ hs₂
  exact hlater.2 (fun bs h => by cases h) _ hfin

end Lodging.Sync.State
