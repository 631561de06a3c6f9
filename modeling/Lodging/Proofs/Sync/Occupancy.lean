import Lodging.Proofs.Listing.Search
import Lodging.Proofs.Sync.Course
import Lodging.Proofs.Sync.Provenance

/-! # A taken night stays taken

A listing gets new feeds in one step, which keeps the blocks of the URLs that stay, and new blocks from
a URL take the place of the old ones in one step as well. So a night that is taken by a block from a URL
is taken in every state, as long as the URL is among all new feeds of the listing and every document
from it has the night. A search asks the calendars once, and whenever that is it finds the block. -/

namespace Lodging.Calendar

/-- The listing has a feed with the URL, and a block from it on the night of the day with this number. -/
structure Store.Taken (s : Store) (listing : Int) (url : String) (n : Int) : Prop where
  feed : ∃ f ∈ s.feeds, f.listing = listing ∧ f.url = url
  block : ∃ b ∈ s.blocks, b.listing = listing ∧ b.url = url ∧ b.period.Covers n

namespace Store

variable {s : Store} {listing : Int} {url : String} {n : Int}

theorem Taken.replaceFeeds (h : s.Taken listing url n) {other : Int} {urls : List String}
    (hkept : other = listing → url ∈ urls) : (s.replaceFeeds other urls).1.Taken listing url n where
  feed := by
    by_cases ho : other = listing
    · have hnew : url ∈ (newFeeds s.fresh other urls).map (·.url) := by
        rw [newFeeds_urls]
        exact hkept ho
      obtain ⟨f, hf, hu⟩ := List.mem_map.mp hnew
      exact ⟨f, mem_feeds_replaceFeeds.mpr (.inr hf), ho ▸ (mem_newFeeds hf).1, hu⟩
    · obtain ⟨f, hf, hl, hu⟩ := h.feed
      exact ⟨f, mem_feeds_replaceFeeds.mpr (.inl ⟨hf, by rw [hl]; exact Ne.symm ho⟩), hl, hu⟩
  block := by
    obtain ⟨b, hb, hl, hu, hc⟩ := h.block
    refine ⟨b, List.mem_filter.mpr ⟨hb, ?_⟩, hl, hu, hc⟩
    by_cases ho : other = listing
    · simp [hu, hkept ho]
    · simp [hl, Ne.symm ho]

theorem Taken.replaceBlocks (h : s.Taken listing url n) {other : Int} {url' : String}
    {ps : List Period} (hps : other = listing → url' = url → ∃ p ∈ ps, p.Covers n) :
    (s.replaceBlocks other url' ps).1.Taken listing url n where
  feed := h.feed
  block := by
    by_cases ho : other = listing ∧ url' = url
    · obtain ⟨rfl, rfl⟩ := ho
      obtain ⟨p, hp, hc⟩ := hps rfl rfl
      have hnew : p ∈ (newBlocks s.fresh other url' ps).map (·.period) := by
        rw [newBlocks_periods]
        exact hp
      obtain ⟨b, hb, rfl⟩ := List.mem_map.mp hnew
      exact ⟨b, List.mem_append_right _ hb, (mem_newBlocks hb).1, (mem_newBlocks hb).2.1, hc⟩
    · obtain ⟨b, hb, hl, hu, hc⟩ := h.block
      refine ⟨b, List.mem_append_left _ (List.mem_filter.mpr ⟨hb, ?_⟩), hl, hu, hc⟩
      simp only [hl, hu, Bool.not_eq_true', Bool.and_eq_false_imp, beq_iff_eq, beq_eq_false_iff_ne]
      exact fun h₁ h₂ => ho ⟨h₁.symm, h₂.symm⟩

end Store

end Lodging.Calendar

namespace Lodging.Sync

open Calendar

def Request.urlsFor? (listing : Int) : Request → Option (List String)
  | .setFeeds l urls => if l = listing then some urls else none
  | .refresh _ => none

/-- The periods that a feed may write later have the night, if it is the feed of the listing with the
URL. -/
def Slot.Promises (listing : Int) (url : String) (n : Int) (slot : Slot) : Prop :=
  slot.feed.listing = listing → slot.feed.url = url →
    ∀ ps, slot.stage.periods? = some ps → ∃ p ∈ ps, p.Covers n

namespace State

/-- New feeds of the listing have the URL among them, unless the store refuses them, and a document that
comes in for the feed with the URL has the night. -/
def Spares (listing : Int) (url : String) (n : Int) (s : State) : Event → Prop
  | .list c down => ∀ k ∈ s.calls[c]?, ∀ urls ∈ k.request.urlsFor? listing,
      .replaceFeeds ∉ down → url ∈ urls
  | .receive c i d => ∀ found ∈ s.slot? c i, found.2.feed.listing = listing →
      found.2.feed.url = url → ∃ p ∈ periodsOf d, p.Covers n
  | _ => True

instance (listing : Int) (url : String) (n : Int) (s : State) (e : Event) :
    Decidable (s.Spares listing url n e) :=
  match e with
  | .list c down => inferInstanceAs (Decidable (∀ k ∈ s.calls[c]?, ∀ urls ∈
      k.request.urlsFor? listing, .replaceFeeds ∉ down → url ∈ urls))
  | .receive c i d => inferInstanceAs (Decidable (∀ found ∈ s.slot? c i,
      found.2.feed.listing = listing → found.2.feed.url = url → ∃ p ∈ periodsOf d, p.Covers n))
  | .submit _ | .send .. | .lineUp .. | .recheck .. | .write .. | .turn _ | .drop _ => .isTrue trivial

variable {size : Nat} {s s' : State} {e : Event} {listing : Int} {url : String} {n : Int}

/-- What a feed is going to write stays as it came in. -/
theorem promises_advance {c i : Nat} {r : Request} {feeds : List Feed} {p : Pass} {feed : Feed}
    {st st' : Stage} {store : Store} {locks : Locks Party} (hs : s.Spares listing url n e)
    (hc : s.calls[c]? = some ⟨r, .passing feeds p⟩) (hb : p.batch[i]? = some ⟨feed, st⟩)
    (ha : s.Advance c i p feed e st st' store locks)
    (h : Slot.Promises listing url n ⟨feed, st⟩) : Slot.Promises listing url n ⟨feed, st'⟩ := by
  intro hl hu ps hps
  cases ha with
  | receive d =>
    have hslot : s.slot? c i = some (p, ⟨feed, .fetching⟩) := by simp [slot?, hc, hb]
    exact Option.some.inj hps ▸ hs _ hslot hl hu
  | lineUp _ => exact h hl hu ps hps
  | clear _ _ => exact h hl hu ps hps
  | _ => cases hps

theorem EverySlot.promises_move (hs : s.EverySlot (Slot.Promises listing url n))
    (hsp : s.Spares listing url n e) (h : Move size s e s') :
    s'.EverySlot (Slot.Promises listing url n) :=
  hs.move h (fun _ _ _ _ h => by cases h) fun hc hb ha => promises_advance hsp hc hb ha

theorem taken_move (ht : s.store.Taken listing url n)
    (hs : s.EverySlot (Slot.Promises listing url n)) (hsp : s.Spares listing url n e)
    (h : Move size s e s') : s'.store.Taken listing url n := by
  cases h with
  | @list c r down store feeds hc _ hlist =>
    rcases listFeeds_eq_ok hlist with ⟨other, urls, rfl, hup, he⟩ | ⟨_, rfl, -, rfl, -⟩
    · obtain ⟨rfl, -⟩ := Prod.mk.inj he
      refine ht.replaceFeeds fun ho => mem_distinct.mpr ?_
      exact hsp _ hc urls (by simp [Request.urlsFor?, ho]) hup
    · exact ht
  | @advance e c i r feeds p feed st st' store locks hc hb ha =>
    cases ha with
    | write hw _ =>
      refine ht.replaceBlocks fun hl hu => ?_
      exact hs c r feeds p hc _ (List.mem_of_getElem? hb) hl hu _ (toWrite?_periods? hw)
    | _ => exact ht
  | _ => exact ht

/-- However calls go on, which of them fail or are given up: if new feeds of the listing always have the
URL among them, and every document from it has the night, those that have come in before and are not
written yet included, then the night is taken in every state. So no search, whatever the inventory it
reads before or after, returns the listing for a stay with this night. -/
theorem taken_of_run? {s₀ : State} {es : List Event} (ht : s₀.store.Taken listing url n)
    (hpromised : s₀.EverySlot (Slot.Promises listing url n))
    (hes : Along size (Spares listing url n) s₀ es) (h : s₀.run? size es = some s) :
    s.store.Taken listing url n ∧
      ∀ (i : Listing.InHouse) (q : Query) (ls : List Listing), i.calendars = s.store →
        q.Requests n → (i.search q).1 = .ok ls →
        ∀ l ∈ ls, l.id ≠ .ofList (Decimal.signed listing) := by
  have hlast : s.store.Taken listing url n ∧ s.EverySlot (Slot.Promises listing url n) :=
    along_induction
      (motive := fun s => s.store.Taken listing url n ∧ s.EverySlot (Slot.Promises listing url n))
      (fun ⟨ht, hp⟩ hsp h =>
        have hm := step?_move h
        ⟨taken_move ht hp hsp hm, hp.promises_move hsp hm⟩) hes ⟨ht, hpromised⟩ h
  refine ⟨hlast.1, fun i q ls hi hq hsearch l hl => ?_⟩
  obtain ⟨b, hb, rfl, -, hc⟩ := hlast.1.block
  exact Listing.InHouse.id_ne_of_mem_search (hi ▸ hb) hc hq hsearch hl

def firstOfJuly : Day := ⟨Civil.number ⟨2025, 7, 1⟩, by decide⟩

def occupied : Store where
  feeds := [⟨0, 1, "http://a"⟩]
  blocks := [⟨1, 1, "http://a", ⟨firstOfJuly, ⟨firstOfJuly.number + 1, by decide⟩⟩⟩]
  fresh := 2

/-- While all feeds are read the listing gets a second feed, and the first write for the old URL fails.
It succeeds when the listing is read again. -/
def turnover : List Event :=
  [.submit (.refresh none), .list 0 [], .send 0 0, .receive 0 0 oneDay,
    .submit (.setFeeds 1 ["http://b", "http://a"]), .list 1 [], .lineUp 0 0, .send 1 0, .send 1 1,
    .receive 1 0 (.error (.fetch "timeout")), .receive 1 1 oneDay, .write 1 1 [.replaceBlocks],
    .write 1 0 [], .turn 1, .recheck 0 0 [], .turn 0, .submit (.refresh (some 1)), .list 2 [],
    .send 2 1, .receive 2 1 oneDay, .write 2 1 []]

def oneNight : Query := ⟨⟨none, none, none⟩, some firstOfJuly, none, none⟩

theorem turnover_taken : ∃ s, (quiet occupied).run? 2 turnover = some s ∧
    s.store.blocks.map (·.id) = [4] ∧ s.store.Taken 1 "http://a" firstOfJuly.number ∧
    ∀ ls, ({ Listing.InHouse.apartments with calendars := s.store }.search oneNight).1 = .ok ls →
      ∀ l ∈ ls, l.id ≠ "1" := by
  have h : ((quiet occupied).run? 2 turnover).any (·.store.blocks.map (·.id) = [4]) = true := by
    decide
  obtain ⟨s, hs, hids⟩ := (Option.any_eq_true _ _).mp h
  have htaken : occupied.Taken 1 "http://a" firstOfJuly.number := by
    constructor <;> decide
  have hall := taken_of_run? htaken (fun _ _ _ _ hc => by simp [quiet] at hc)
    (by decide : Along 2 (Spares 1 "http://a" firstOfJuly.number) (quiet occupied) turnover) hs
  have hid : String.ofList (Decimal.signed 1) = "1" := by
    simp [Decimal.signed, Decimal.digits, Decimal.digitsOnto, Decimal.digitChar]
  refine ⟨s, hs, of_decide_eq_true hids, hall.1, fun ls hsearch => ?_⟩
  exact hid ▸ hall.2 _ oneNight ls rfl rfl hsearch

end State

end Lodging.Sync
