import Lodging.Proofs.Calendar.Store
import Mathlib.Data.List.Dedup
import Mathlib.Data.List.Flatten
import Mathlib.Data.List.Nodup

/-! # The history of the calendar store

The two tables are edited in place: rows are filtered out and new rows are put behind the others. What
is in them can be said without the tables, from the writes that were made and the rows that each of
them returned. The feeds of a listing are those that its last feeds were returned as, and the blocks of
a listing from a URL are those that were last returned for the two, unless the listing was given feeds
without the URL since. A table as a whole keeps the order of the writes.

One write adds one receipt to the history, so the induction is on the writes, with the history growing
at its end. -/

namespace Lodging.Calendar

inductive Write where
  | feeds (listing : Int) (urls : List String)
  | blocks (listing : Int) (url : String) (periods : List Period)

/-- The listing that a write gives feeds. -/
def Write.fed? : Write → Option Int
  | feeds listing _ => some listing
  | blocks .. => none

structure Receipt where
  write : Write
  feeds : List Feed
  blocks : List Block

namespace Receipt

def ids (r : Receipt) : List Nat := r.feeds.map (·.id) ++ r.blocks.map (·.id)

/-- The rows are those that were asked for, in order. -/
def Answers (r : Receipt) : Prop :=
  match r.write with
  | .feeds listing urls =>
    r.feeds.map (·.url) = urls ∧ (∀ f ∈ r.feeds, f.listing = listing) ∧ r.blocks = []
  | .blocks listing url periods =>
    r.blocks.map (·.period) = periods ∧ (∀ b ∈ r.blocks, b.listing = listing ∧ b.url = url) ∧
      r.feeds = []

/-- The feeds that a write leaves a listing with, if it is about them. -/
def feedsOf? (r : Receipt) (listing : Int) : Option (List Feed) :=
  match r.write with
  | .feeds l _ => if l = listing then some r.feeds else none
  | .blocks .. => none

/-- The blocks that a write leaves a listing with from a URL, if it is about them. -/
def blocksOf? (r : Receipt) (listing : Int) (url : String) : Option (List Block) :=
  match r.write with
  | .feeds l urls => if l = listing ∧ url ∉ urls then some [] else none
  | .blocks l u _ => if l = listing ∧ u = url then some r.blocks else none

end Receipt

def lastFeeds (rs : List Receipt) (listing : Int) : List Feed :=
  (rs.reverse.findSome? (·.feedsOf? listing)).getD []

def lastBlocks (rs : List Receipt) (listing : Int) (url : String) : List Block :=
  (rs.reverse.findSome? (·.blocksOf? listing url)).getD []

/-- The listings that were given feeds, in the order of the last time (`List.dedup` keeps the last of
equal elements). -/
def fedInTurn (rs : List Receipt) : List Int := (rs.filterMap (·.write.fed?)).dedup

theorem lastFeeds_concat (rs : List Receipt) (r : Receipt) (listing : Int) :
    lastFeeds (rs ++ [r]) listing = (r.feedsOf? listing).getD (lastFeeds rs listing) := by
  cases h : r.feedsOf? listing <;> simp [lastFeeds, h]

theorem lastBlocks_concat (rs : List Receipt) (r : Receipt) (listing : Int) (url : String) :
    lastBlocks (rs ++ [r]) listing url = (r.blocksOf? listing url).getD (lastBlocks rs listing url) := by
  cases h : r.blocksOf? listing url <;> simp [lastBlocks, h]

/-- What comes again takes its place at the end. -/
theorem dedup_concat {α : Type} [DecidableEq α] (l : List α) (a : α) :
    (l ++ [a]).dedup = l.dedup.filter (· != a) ++ [a] := by
  induction l with
  | nil => rfl
  | cons b l ih =>
    by_cases hb : b ∈ l
    · rw [List.cons_append, List.dedup_cons_of_mem (List.mem_append_left _ hb), ih,
        List.dedup_cons_of_mem hb]
    · rw [List.dedup_cons_of_notMem hb]
      by_cases hba : b = a
      · rw [List.cons_append, List.dedup_cons_of_mem (by simp [hba]), ih]
        simp [hba]
      · rw [List.cons_append, List.dedup_cons_of_notMem (by simp [hb, hba]), ih]
        simp [hba]

namespace Store

/-! ## Keeping receipts -/

def perform (s : Store) : Write → Store × Receipt
  | .feeds listing urls =>
    ((s.replaceFeeds listing urls).1, ⟨.feeds listing urls, (s.replaceFeeds listing urls).2, []⟩)
  | .blocks listing url periods =>
    ((s.replaceBlocks listing url periods).1,
      ⟨.blocks listing url periods, [], (s.replaceBlocks listing url periods).2⟩)

def performAll (s : Store) : List Write → Store × List Receipt
  | [] => (s, [])
  | w :: ws =>
    (((s.perform w).1.performAll ws).1, (s.perform w).2 :: ((s.perform w).1.performAll ws).2)

theorem performAll_writes (s : Store) (ws : List Write) :
    (s.performAll ws).2.map (·.write) = ws := by
  induction ws generalizing s with
  | nil => rfl
  | cons w ws ih =>
    rw [performAll, List.map_cons, ih]
    cases w <;> rfl

theorem perform_answers (s : Store) (w : Write) : (s.perform w).2.Answers := by
  cases w with
  | feeds listing urls => exact ⟨newFeeds_urls .., fun f hf => (mem_newFeeds hf).1, rfl⟩
  | blocks listing url periods =>
    exact ⟨newBlocks_periods .., fun b hb => ⟨(mem_newBlocks hb).1, (mem_newBlocks hb).2.1⟩, rfl⟩

theorem performAll_answers (s : Store) (ws : List Write) :
    ∀ r ∈ (s.performAll ws).2, r.Answers := by
  induction ws generalizing s with
  | nil => simp [performAll]
  | cons w ws ih =>
    intro r hr
    rcases List.mem_cons.mp hr with rfl | hr
    · exact s.perform_answers w
    · exact ih _ r hr

theorem newBlocks_ids (n : Nat) (listing : Int) (url : String) (ps : List Period) :
    (newBlocks n listing url ps).map (·.id) = List.range' n ps.length := by
  simp [newBlocks, Function.comp_def, List.zipIdx_map_snd]

/-- A write numbers its rows from where nothing was numbered yet. -/
theorem exists_perform_ids (s : Store) (w : Write) :
    ∃ n, (s.perform w).2.ids = List.range' s.fresh n ∧ (s.perform w).1.fresh = s.fresh + n := by
  cases w with
  | feeds listing urls =>
    exact ⟨urls.length, by simp [perform, Receipt.ids, replaceFeeds, newFeeds_ids], rfl⟩
  | blocks listing url periods =>
    exact ⟨periods.length, by simp [perform, Receipt.ids, replaceBlocks, newBlocks_ids], rfl⟩

theorem exists_performAll_ids (s : Store) (ws : List Write) :
    ∃ n, (s.performAll ws).2.flatMap (·.ids) = List.range' s.fresh n := by
  induction ws generalizing s with
  | nil => exact ⟨0, rfl⟩
  | cons w ws ih =>
    obtain ⟨m, hids, hfresh⟩ := s.exists_perform_ids w
    obtain ⟨n, hrest⟩ := ih (s.perform w).1
    refine ⟨m + n, ?_⟩
    rw [performAll, List.flatMap_cons, hids, hrest, hfresh, ← List.range'_append, Nat.one_mul]

/-! ## What the tables hold -/

/-- The tables are what the writes left in them. -/
structure Holds (s : Store) (rs : List Receipt) : Prop where
  feeds : ∀ listing, s.findFeeds (some listing) = lastFeeds rs listing
  inTurn : s.findFeeds none = (fedInTurn rs).flatMap (lastFeeds rs)
  blocks : ∀ listing url, s.blocksOf listing url = lastBlocks rs listing url
  inOrder : s.blocks.Sublist (rs.flatMap (·.blocks))

theorem holds_empty : empty.Holds [] := by
  constructor <;> simp [empty, findFeeds, blocksOf, fedInTurn, lastFeeds, lastBlocks]

/-- Taking the feeds of one listing out of the table takes the listing out of the turn. -/
theorem Holds.filter_feeds {s : Store} {rs : List Receipt} (h : s.Holds rs) (listing : Int) :
    s.feeds.filter (·.listing != listing) =
      ((fedInTurn rs).filter (· != listing)).flatMap (lastFeeds rs) := by
  have hown : ∀ l, (lastFeeds rs l).filter (·.listing != listing) =
      if l != listing then lastFeeds rs l else [] := by
    intro l
    have hl : ∀ f ∈ lastFeeds rs l, f.listing = l := fun f hf =>
      (mem_findFeeds_some.mp (h.feeds l ▸ hf)).2
    split
    · next hne => exact List.filter_eq_self.mpr fun f hf => by rw [hl f hf, hne]
    · next he => exact List.filter_eq_nil_iff.mpr fun f hf => by rw [hl f hf]; exact he
  have hall : s.feeds = (fedInTurn rs).flatMap (lastFeeds rs) := h.inTurn
  rw [hall, List.filter_flatMap, List.flatMap_congr fun l _ => hown l]
  generalize fedInTurn rs = turn
  induction turn with
  | nil => rfl
  | cons l turn ih =>
    rw [List.flatMap_cons, ih, List.filter_cons]
    split <;> simp

theorem Holds.replaceFeeds {s : Store} {rs : List Receipt} (h : s.Holds rs) (listing : Int)
    (urls : List String) :
    (s.replaceFeeds listing urls).1.Holds
      (rs ++ [⟨.feeds listing urls, (s.replaceFeeds listing urls).2, []⟩]) where
  feeds := by
    intro l
    rw [lastFeeds_concat]
    by_cases hl : listing = l
    · subst hl
      rw [findFeeds_replaceFeeds]
      simp [Receipt.feedsOf?, Store.replaceFeeds]
    · simp [Receipt.feedsOf?, hl, findFeeds_replaceFeeds_of_ne s (Ne.symm hl), h.feeds l]
  inTurn := by
    have hturn : fedInTurn (rs ++ [⟨.feeds listing urls, (s.replaceFeeds listing urls).2, []⟩]) =
        (fedInTurn rs).filter (· != listing) ++ [listing] := by
      rw [fedInTurn, List.filterMap_append]
      exact dedup_concat _ listing
    have hothers : ∀ l ∈ (fedInTurn rs).filter (· != listing),
        lastFeeds (rs ++ [⟨.feeds listing urls, (s.replaceFeeds listing urls).2, []⟩]) l =
          lastFeeds rs l := by
      intro l hl
      have hne : listing ≠ l := by
        rintro rfl
        simp at hl
      simp [lastFeeds_concat, Receipt.feedsOf?, hne]
    rw [hturn, List.flatMap_append, List.flatMap_congr hothers, ← h.filter_feeds]
    simp [findFeeds, Store.replaceFeeds, lastFeeds_concat, Receipt.feedsOf?]
  blocks := by
    intro l url
    rw [lastBlocks_concat]
    by_cases hl : listing = l
    · subst hl
      by_cases hu : url ∈ urls <;> simp [Receipt.blocksOf?, blocksOf_replaceFeeds, hu, h.blocks]
    · simp [Receipt.blocksOf?, hl, blocksOf_replaceFeeds_of_ne s (Ne.symm hl), h.blocks]
  inOrder := by
    have hkept : (s.replaceFeeds listing urls).1.blocks.Sublist s.blocks := List.filter_sublist
    simpa using hkept.trans h.inOrder

theorem Holds.replaceBlocks {s : Store} {rs : List Receipt} (h : s.Holds rs) (listing : Int)
    (url : String) (periods : List Period) :
    (s.replaceBlocks listing url periods).1.Holds
      (rs ++ [⟨.blocks listing url periods, [], (s.replaceBlocks listing url periods).2⟩]) where
  feeds := by
    intro l
    simp [lastFeeds_concat, Receipt.feedsOf?, h.feeds l]
  inTurn := by
    have hlast : lastFeeds
        (rs ++ [⟨.blocks listing url periods, [], (s.replaceBlocks listing url periods).2⟩]) =
          lastFeeds rs := by
      funext l
      simp [lastFeeds_concat, Receipt.feedsOf?]
    rw [hlast, findFeeds_replaceBlocks, h.inTurn]
    simp [fedInTurn, Write.fed?]
  blocks := by
    intro l u
    rw [lastBlocks_concat]
    by_cases hlu : listing = l ∧ url = u
    · obtain ⟨rfl, rfl⟩ := hlu
      rw [blocksOf_replaceBlocks]
      simp [Receipt.blocksOf?, Store.replaceBlocks]
    · have hne : ¬ (l = listing ∧ u = url) := fun h => hlu ⟨h.1.symm, h.2.symm⟩
      simp [Receipt.blocksOf?, hlu, blocksOf_replaceBlocks_of_ne s hne, h.blocks]
  inOrder := by
    have hkept : (s.blocks.filter fun b => !(b.listing == listing && b.url == url)).Sublist
        (rs.flatMap (·.blocks)) := List.filter_sublist.trans h.inOrder
    rw [List.flatMap_append, List.flatMap_singleton]
    exact hkept.append (List.Sublist.refl _)

theorem Holds.perform {s : Store} {rs : List Receipt} (h : s.Holds rs) (w : Write) :
    (s.perform w).1.Holds (rs ++ [(s.perform w).2]) := by
  cases w with
  | feeds listing urls => exact h.replaceFeeds listing urls
  | blocks listing url periods => exact h.replaceBlocks listing url periods

theorem Holds.performAll {s : Store} {rs : List Receipt} (h : s.Holds rs) (ws : List Write) :
    (s.performAll ws).1.Holds (rs ++ (s.performAll ws).2) := by
  induction ws generalizing s rs with
  | nil => simpa [Store.performAll] using h
  | cons w ws ih =>
    rw [Store.performAll, List.append_cons]
    exact ih (h.perform w)

/-! ## Reading the blocks -/

def startsFirst (a b : Block) : Bool := a.period.start ≤ b.period.start

theorem startsFirst_trans (a b c : Block) (hab : startsFirst a b) (hbc : startsFirst b c) :
    startsFirst a c := by
  have hab : a.period.start.number ≤ b.period.start.number := of_decide_eq_true hab
  have hbc : b.period.start.number ≤ c.period.start.number := of_decide_eq_true hbc
  exact decide_eq_true (show a.period.start.number ≤ c.period.start.number by omega)

theorem startsFirst_total (a b : Block) : startsFirst a b || startsFirst b a := by
  rw [Bool.or_eq_true, startsFirst, startsFirst, decide_eq_true_eq, decide_eq_true_eq]
  exact Int.le_total _ _

/-- The blocks of a listing are sorted by their first day. -/
theorem pairwise_findBlocks (s : Store) (listing : Int) :
    (s.findBlocks listing).Pairwise fun a b => a.period.start ≤ b.period.start :=
  (List.pairwise_mergeSort startsFirst_trans startsFirst_total _).imp fun h => of_decide_eq_true h

/-- Blocks that begin on the same day stay in the order of the table. -/
theorem filter_findBlocks (s : Store) (listing : Int) (day : Day) :
    (s.findBlocks listing).filter (·.period.start == day) =
      (s.blocks.filter (·.listing == listing)).filter (·.period.start == day) := by
  generalize hrows : s.blocks.filter (·.listing == listing) = rows
  have hfind : s.findBlocks listing = rows.mergeSort startsFirst := by rw [← hrows]; rfl
  -- as a sorted part of the rows they come through the sorting as they are
  have hsame : (rows.filter (·.period.start == day)).Pairwise fun a b => startsFirst a b := by
    refine List.pairwise_of_forall_mem_list fun a ha b hb => decide_eq_true ?_
    rw [eq_of_beq (List.mem_filter.mp ha).2, eq_of_beq (List.mem_filter.mp hb).2]
    exact Int.le_refl _
  have hsub : (rows.filter (·.period.start == day)).Sublist (s.findBlocks listing) :=
    hfind ▸ List.sublist_mergeSort startsFirst_trans startsFirst_total hsame List.filter_sublist
  have hperm : (s.findBlocks listing).Perm rows := hfind ▸ List.mergeSort_perm rows startsFirst
  have hle := (hsub.filter (·.period.start == day)).eq_of_length_le
    (by simpa using Nat.le_of_eq (hperm.filter (·.period.start == day)).length_eq)
  simpa using hle.symm

/-- A table of different blocks shows each block once that is asked for, however often its listing is
named. -/
theorem count_findOverlapping {s : Store} (h : s.blocks.Nodup) (listings : List Int)
    (window : Period) (b : Block) :
    (s.findOverlapping listings window).count b =
      if b ∈ s.blocks ∧ b.listing ∈ listings ∧ b.period.start < window.stop ∧
        window.start < b.period.stop then 1 else 0 := by
  have hfound : (s.findOverlapping listings window).Nodup := h.filter _
  rw [hfound.count]
  refine if_congr ?_ rfl rfl
  simp [findOverlapping, Period.overlaps]

/-! ## All together -/

/-- Whatever is written to an empty store: every write returns a row for each URL or period that it was
given, and no identifier is used twice; the feeds of a listing, and its blocks from a URL, are those
that the last write about them left, in the order of the writes; the blocks of a listing are sorted by
their first day, without changing the order of those with the same; and the blocks that overlap a
window are found once each, in the order of the table. -/
theorem last_write_wins (ws : List Write) :
    let s := (empty.performAll ws).1
    let rs := (empty.performAll ws).2
    rs.map (·.write) = ws ∧ (∀ r ∈ rs, r.Answers) ∧ (rs.flatMap (·.ids)).Nodup ∧ s.Holds rs ∧
    (∀ listing,
      ((s.findBlocks listing).Pairwise fun a b => a.period.start ≤ b.period.start) ∧
      ∀ day, (s.findBlocks listing).filter (·.period.start == day) =
        (s.blocks.filter (·.listing == listing)).filter (·.period.start == day)) ∧
    ∀ listings window,
      (s.findOverlapping listings window).Sublist s.blocks ∧
      ∀ b, (s.findOverlapping listings window).count b =
        if b ∈ s.blocks ∧ b.listing ∈ listings ∧ b.period.start < window.stop ∧
          window.start < b.period.stop then 1 else 0 := by
  intro s rs
  have hholds : s.Holds rs := holds_empty.performAll ws
  obtain ⟨n, hids⟩ : ∃ n, rs.flatMap (·.ids) = List.range' empty.fresh n :=
    empty.exists_performAll_ids ws
  have hnodup : (rs.flatMap (·.ids)).Nodup := hids ▸ List.nodup_range'
  have hblocks : s.blocks.Nodup := by
    have hsub : (s.blocks.map (·.id)).Sublist (rs.flatMap (·.ids)) := by
      refine (hholds.inOrder.map _).trans ?_
      rw [List.map_flatMap]
      exact List.Sublist.flatMap_right rs fun r _ => List.sublist_append_right _ _
    exact List.Nodup.of_map _ (hnodup.sublist hsub)
  refine ⟨empty.performAll_writes ws, empty.performAll_answers ws, hnodup, hholds, ?_, ?_⟩
  · intro listing
    exact ⟨s.pairwise_findBlocks listing, s.filter_findBlocks listing⟩
  · intro listings window
    exact ⟨List.filter_sublist, count_findOverlapping hblocks listings window⟩

end Store

end Lodging.Calendar
