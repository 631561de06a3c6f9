import Lodging.Listing.InHouse
import Lodging.Proofs.Decimal.Whole
import Lodging.Proofs.Listing.Nights
import Mathlib.Algebra.Order.Ring.Int
import Mathlib.Data.List.Nodup

/-! # What an in-house search finds

A record is an answer to a query if it is active, takes the party, can be let for so few nights, lies
where the location points, and has none of the nights of the stay taken. The search gives the answers,
each once, in the order of the inventory or, where the location has a point, from near to far.

Distances are floats, so two records may be equally near; the order is the one of the inventory among
those, and among records without coordinates, which come last. -/

namespace Lodging.Listing

open Calendar

/-! ## The order of a list -/

section

variable {α : Type} {l : List α} {a b : α}

def Ahead (l : List α) (a b : α) : Prop := [a, b].Sublist l

theorem Ahead.sublist {l' : List α} (h : Ahead l' a b) (hs : l'.Sublist l) : Ahead l a b :=
  List.Sublist.trans h hs

theorem ahead_or (ha : a ∈ l) (hb : b ∈ l) (hne : a ≠ b) : Ahead l a b ∨ Ahead l b a := by
  obtain ⟨s, t, rfl⟩ := List.append_of_mem ha
  rcases List.mem_append.mp hb with hb | hb
  · right
    exact (List.singleton_sublist.mpr hb).append (List.singleton_sublist.mpr (List.mem_cons_self ..))
  · rcases List.mem_cons.mp hb with rfl | hb
    · exact absurd rfl hne
    · left
      exact ((List.singleton_sublist.mpr hb).cons_cons a).trans (List.sublist_append_right s _)

/-- In a list without repetitions only one of two elements stands before the other. -/
theorem Ahead.not_swap (hl : l.Nodup) (h : Ahead l a b) : ¬ Ahead l b a := by
  induction l with
  | nil => cases h
  | cons c l ih =>
    intro h'
    obtain ⟨hc, hl⟩ := List.nodup_cons.mp hl
    cases h with
    | cons _ h =>
      cases h' with
      | cons _ h' => exact ih hl h h'
      | cons_cons _ _ => exact hc (h.subset (by simp))
    | cons_cons _ h =>
      cases h' with
      | cons _ h' => exact hc (h'.subset (by simp))
      | cons_cons _ _ => exact hc (h.subset (by simp))

/-- Sorting keeps the order of elements that may stand either way. -/
theorem pairwise_ahead_mergeSort {le : α → α → Bool} (trans : ∀ a b c, le a b → le b c → le a c)
    (total : ∀ a b, le a b || le b a) (hl : l.Nodup) :
    (l.mergeSort le).Pairwise fun a b => le a b ∧ (le b a → Ahead l a b) := by
  have hperm := List.mergeSort_perm l le
  have hnodup : (l.mergeSort le).Nodup := hperm.nodup_iff.mpr hl
  apply List.pairwise_of_forall_sublist
  intro a b hab
  refine ⟨(List.pairwise_mergeSort trans total l).forall_sublist hab, fun hba => ?_⟩
  have hmem : ∀ x ∈ [a, b], x ∈ l := fun x hx => hperm.mem_iff.mp (hab.subset hx)
  have hne : a ≠ b := by
    have := hnodup.sublist hab
    simpa using this
  rcases ahead_or (hmem a (by simp)) (hmem b (by simp)) hne with h | h
  · exact h
  -- the other order would survive the sorting
  · exact absurd (List.pair_sublist_mergeSort trans total hba h) (Ahead.not_swap hnodup hab)

end

/-! ## What is an answer -/

def Admits : Geo.SpatialFilter → Description → Prop
  | .everywhere, _ => True
  | .range r, d => ∃ lat lng, d.lat = some lat ∧ d.lng = some lng ∧ r.contains ⟨lat, lng⟩ = true
  | .text s, d => ∃ a, d.address = some a ∧ Text.lower s.toList <:+: Text.lower a.toList

theorem inArea_iff {area : Geo.SpatialFilter} {d : Description} :
    inArea area d = true ↔ Admits area d := by
  cases area with
  | everywhere => simp [inArea, Admits]
  | range r =>
    obtain ⟨_, _, _, lat, lng, _⟩ := d
    cases lat <;> cases lng <;> simp [inArea, Admits, Description.point?]
  | text s => simp [inArea, Admits, Option.any_eq_true, addressMatches, Text.occursIn_iff]

namespace InHouse

def place (h : InHouse) (q : Query) : Geo.Resolved := (q.location.resolve h.defaults h.geocoder).1

def Free (h : InHouse) (q : Query) (r : Record) : Prop :=
  ∀ b ∈ h.calendars.blocks, b.listing = r.id → ∀ n, q.Requests n → ¬ b.period.Covers n

structure Answers (h : InHouse) (q : Query) (r : Record) : Prop where
  stored : r ∈ h.inventory.records
  active : r.about.isActive = true
  guests : min (q.partySize : Int) (2 ^ 31 - 1) ≤ r.about.maxGuests
  nights : ∀ a b, q.checkIn = some a → q.checkOut = some b → a < b →
    r.about.minimumNights ≤ b.number - a.number
  inArea : Admits (h.place q).filter r.about
  free : h.Free q r

/-- Whether a place at distance `a` goes before one at distance `b` in any case. -/
def Nearer : Option Float → Option Float → Prop
  | some a, some b => Geo.orderKey a < Geo.orderKey b
  | some _, none => True
  | none, _ => False

theorem not_nearer_iff {a b : Option Float} : ¬ Nearer a b ↔ Geo.nearerOrSame b a = true := by
  cases a with
  | none => cases b <;> simp [Nearer, Geo.nearerOrSame]
  | some x => cases b <;> simp [Nearer, Geo.nearerOrSame]

/-- Whether `a` comes before `b`, around the origin of the search if it has one. -/
def Precedes (origin : Option (Geo.Point Float)) (records : List Record) (a b : Record) : Prop :=
  match origin with
  | none => Ahead records a b
  | some p =>
    Nearer (distanceFrom p a) (distanceFrom p b) ∨
      ¬ Nearer (distanceFrom p b) (distanceFrom p a) ∧ Ahead records a b

theorem Precedes.sublist {origin : Option (Geo.Point Float)} {rs records : List Record}
    {a b : Record} (h : Precedes origin rs a b) (hs : rs.Sublist records) :
    Precedes origin records a b := by
  cases origin with
  | none => exact Ahead.sublist h hs
  | some p =>
    rcases h with h | ⟨hn, h⟩
    · exact .inl h
    · exact .inr ⟨hn, h.sublist hs⟩

theorem sortFrom_perm (origin : Option (Geo.Point Float)) (rs : List Record) :
    (sortFrom origin rs).Perm rs := by
  cases origin with
  | none => exact List.Perm.refl rs
  | some p => exact List.mergeSort_perm rs _

theorem pairwise_sortFrom {rs : List Record} (hrs : rs.Nodup) (origin : Option (Geo.Point Float)) :
    (sortFrom origin rs).Pairwise (Precedes origin rs) := by
  cases origin with
  | none => exact List.pairwise_of_forall_sublist fun h => h
  | some p =>
    let le (a b : Record) : Bool := Geo.nearerOrSame (distanceFrom p a) (distanceFrom p b)
    have hsort : (rs.mergeSort le).Pairwise fun a b => le a b ∧ (le b a → Ahead rs a b) :=
      pairwise_ahead_mergeSort (fun _ _ _ => Geo.nearerOrSame_trans)
        (fun _ _ => Geo.nearerOrSame_total _ _) hrs
    refine hsort.imp ?_
    intro a b ⟨hab, hba⟩
    by_cases hn : Nearer (distanceFrom p a) (distanceFrom p b)
    · exact .inl hn
    · exact .inr ⟨not_nearer_iff.mpr hab, hba (not_nearer_iff.mp hn)⟩

/-! ## The search -/

section

variable {h : InHouse} {q : Query}

theorem matches_iff {area : Geo.SpatialFilter} {r : Record} :
    (filterOf q area).matches r = true ↔ r.about.isActive = true ∧
      min (q.partySize : Int) (2 ^ 31 - 1) ≤ r.about.maxGuests ∧
      (∀ a b, q.checkIn = some a → q.checkOut = some b → a < b →
        r.about.minimumNights ≤ b.number - a.number) ∧ Admits area r.about := by
  have hnights : (q.nights?.all fun n => decide (r.about.minimumNights ≤ n)) = true ↔
      ∀ a b, q.checkIn = some a → q.checkOut = some b → a < b →
        r.about.minimumNights ≤ b.number - a.number := by
    simp only [Option.all_eq_true, Query.nights?_eq_some, decide_eq_true_eq]
    constructor
    · intro hk a b ha hb hlt
      exact hk _ ⟨a, b, ha, hb, hlt, rfl⟩
    · rintro hk _ ⟨a, b, ha, hb, hlt, rfl⟩
      exact hk a b ha hb hlt
  have hcap : (2 ^ 31 - 1 : Int) = Decimal.int32.high := by decide
  simp only [Filter.matches, Bool.and_eq_true, decide_eq_true_eq, inArea_iff, and_assoc]
  simp only [filterOf, hnights, hcap]

theorem free_iff (hblocks : ∀ b ∈ h.calendars.blocks, b.period.start < b.period.stop)
    {r : Record} :
    h.Free q r ↔ ∀ b ∈ h.calendars.blocks, b.listing = r.id →
      ∀ w, q.window? = some w → b.period.overlaps w = false := by
  unfold Free
  refine forall_congr' fun b => forall_congr' fun hb => forall_congr' fun _ => ?_
  have hiff := q.overlaps_window?_iff (hblocks b hb)
  constructor
  · intro hf w hw
    cases ho : b.period.overlaps w with
    | false => rfl
    | true =>
      obtain ⟨n, hn, hc⟩ := hiff.mp ⟨w, hw, ho⟩
      exact absurd hc (hf n hn)
  · intro hf n hn hc
    obtain ⟨w, hw, ho⟩ := hiff.mpr ⟨n, hn, hc⟩
    rw [hf w hw] at ho
    cases ho

/-- Of the records in a list, those that are free are left, in their order. -/
theorem freeIn_spec (hup : .findOverlapping ∉ h.down)
    (hblocks : ∀ b ∈ h.calendars.blocks, b.period.start < b.period.stop) (rs : List Record) :
    ∃ free : List Record, h.freeIn q.window? rs = .ok free ∧ free.Sublist rs ∧
      ∀ r, r ∈ free ↔ r ∈ rs ∧ h.Free q r := by
  simp only [free_iff hblocks]
  cases q.window? with
  | none => exact ⟨rs, rfl, List.Sublist.refl rs, by simp⟩
  | some w =>
    have hask : ∀ busy : List Block, Calendar.ask h.down .findOverlapping busy = .ok busy := by
      intro busy
      simp [Calendar.ask, hup]
    refine ⟨_, by simp only [freeIn, hask]; rfl, List.filter_sublist, fun r => ?_⟩
    rw [List.mem_filter]
    refine and_congr_right fun hr => ?_
    have hid : r.id ∈ rs.map (·.id) := List.mem_map_of_mem hr
    simp only [Calendar.Store.findOverlapping, Bool.not_eq_true', List.any_eq_false, List.mem_filter,
      Bool.and_eq_true, List.contains_iff_mem, beq_iff_eq, Option.some.injEq, forall_eq']
    constructor
    · intro hb b hmem hr'
      cases ho : b.period.overlaps w with
      | false => rfl
      | true => exact absurd hr' (hb b ⟨hmem, by rwa [hr'], ho⟩)
    · intro hb b ⟨hmem, _, ho⟩ hr'
      rw [hb b hmem hr'] at ho
      cases ho

/-- A record with a block on a night of the stay is not free, whatever else is in the calendars. -/
theorem id_ne_of_mem_freeIn {rs free : List Record} {b : Block} {n : Int}
    (hb : b ∈ h.calendars.blocks) (hc : b.period.Covers n) (hq : q.Requests n)
    (hfree : h.freeIn q.window? rs = .ok free) {r : Record} (hr : r ∈ free) :
    r.id ≠ b.listing := by
  intro hid
  cases hw : q.window? with
  | none => exact Query.not_covers_of_window?_eq_none hw hq b.period hc
  | some w =>
    obtain ⟨hlt, hcovers⟩ := Query.window?_spec hw
    have hnonempty : b.period.start.number < b.period.stop.number := Int.lt_of_le_of_lt hc.1 hc.2
    have hover : b.period.overlaps w = true :=
      (Period.overlaps_iff_exists_covers hnonempty hlt).mpr ⟨n, hc, (hcovers n).mpr hq⟩
    rw [hw] at hfree
    by_cases hdown : Access.findOverlapping ∈ h.down
    · simp [freeIn, Calendar.ask, hdown, ofCalendar, Except.mapError, bind, Except.bind] at hfree
    · simp only [freeIn, Calendar.ask, List.contains_iff_mem, hdown, if_false, ofCalendar,
        Except.mapError, bind, Except.bind, pure, Except.pure, Except.ok.injEq] at hfree
      rw [← hfree, List.mem_filter] at hr
      have hbusy : b ∈ h.calendars.findOverlapping (rs.map (·.id)) w :=
        List.mem_filter.mpr ⟨hb, by simp [← hid, hover, List.mem_map_of_mem hr.1]⟩
      have hany : (h.calendars.findOverlapping (rs.map (·.id)) w).any (·.listing == r.id) = true :=
        List.any_eq_true.mpr ⟨b, hbusy, by simp [hid]⟩
      simp [hany] at hr

/-- The records that meet the criteria of a query other than its nights, in the order of results. -/
def candidates (h : InHouse) (q : Query) : List Record :=
  sortFrom (h.place q).origin (h.inventory.select (filterOf q (h.place q).filter).matches)

theorem mem_candidates {r : Record} : r ∈ h.candidates q ↔
    r ∈ h.inventory.records ∧ (filterOf q (h.place q).filter).matches r = true := by
  rw [candidates, (sortFrom_perm _ _).mem_iff, Inventory.select, List.mem_filter]

/-- What a search returns are the candidates that were found free. -/
theorem search_eq_ok {ls : List Listing} (hs : (h.search q).1 = .ok ls) :
    .findListings ∉ h.down ∧
      ∃ free, h.freeIn q.window? (h.candidates q) = .ok free ∧
        ls = free.map (·.toListing inHouseName) := by
  have hresolved : (h.search q).1 = h.searchResolved q (h.place q) := rfl
  rw [hresolved, searchResolved] at hs
  by_cases hdown : Access.findListings ∈ h.down
  · simp [ask, hdown, bind, Except.bind] at hs
  · simp only [ask, List.contains_iff_mem, hdown, if_false] at hs
    change (h.freeIn q.window? (h.candidates q)).bind _ = _ at hs
    cases hfree : h.freeIn q.window? (h.candidates q) with
    | error e =>
      rw [hfree] at hs
      cases hs
    | ok free =>
      rw [hfree] at hs
      exact ⟨hdown, free, rfl, (Except.ok.inj hs).symm⟩

theorem search_of_freeIn (hlist : .findListings ∉ h.down) {free : List Record}
    (hfree : h.freeIn q.window? (h.candidates q) = .ok free) :
    (h.search q).1 = .ok (free.map (·.toListing inHouseName)) := by
  have hresolved : (h.search q).1 = h.searchResolved q (h.place q) := rfl
  simp only [hresolved, searchResolved, ask, List.contains_iff_mem, hlist, if_false]
  change (h.freeIn q.window? (h.candidates q)).bind _ = _
  rw [hfree]
  rfl

/-- A listing with a block on a night of the stay is not returned. -/
theorem id_ne_of_mem_search {b : Block} {n : Int} (hb : b ∈ h.calendars.blocks)
    (hc : b.period.Covers n) (hq : q.Requests n) {ls : List Listing}
    (hs : (h.search q).1 = .ok ls) {l : Listing} (hl : l ∈ ls) :
    l.id ≠ .ofList (Decimal.signed b.listing) := by
  obtain ⟨-, free, hfree, rfl⟩ := search_eq_ok hs
  obtain ⟨r, hr, rfl⟩ := List.mem_map.mp hl
  intro hid
  refine id_ne_of_mem_freeIn hb hc hq hfree hr (Decimal.signed_inj ?_)
  simpa [Record.toListing] using congrArg String.toList hid

/-- A search finds what answers the query. -/
theorem search_exact (hids : (h.inventory.records.map (·.id)).Nodup)
    (hblocks : ∀ b ∈ h.calendars.blocks, b.period.start < b.period.stop)
    (hlist : .findListings ∉ h.down) (hover : .findOverlapping ∉ h.down) :
    ∃ rs : List Record, (h.search q).1 = .ok (rs.map (·.toListing inHouseName)) ∧
      (rs.map (·.id)).Nodup ∧ (∀ r, r ∈ rs ↔ h.Answers q r) ∧
      rs.Pairwise (Precedes (h.place q).origin h.inventory.records) := by
  let found := h.inventory.records.filter (filterOf q (h.place q).filter).matches
  have hsub : found.Sublist h.inventory.records := List.filter_sublist
  have hfound : (found.map (·.id)).Nodup := hids.sublist (hsub.map _)
  have hsort := pairwise_sortFrom (List.Nodup.of_map _ hfound) (h.place q).origin
  have hperm := sortFrom_perm (h.place q).origin found
  obtain ⟨free, hfree, hfs, hmem⟩ := freeIn_spec hover hblocks (sortFrom (h.place q).origin found)
  refine ⟨free, ?_, ?_, ?_, ?_⟩
  · have hask : ask h.down .findListings found = .ok found := by simp [ask, hlist]
    have hresolved : (h.search q).1 = h.searchResolved q (h.place q) := rfl
    rw [hresolved, searchResolved, Inventory.select, hask]
    dsimp only [bind, Except.bind]
    rw [hfree]
    rfl
  · exact ((hperm.map _).nodup_iff.mpr hfound).sublist (hfs.map _)
  · intro r
    rw [hmem, hperm.mem_iff, List.mem_filter, matches_iff]
    constructor
    · rintro ⟨⟨hs, ha, hg, hn, hp⟩, hf⟩
      exact ⟨hs, ha, hg, hn, hp, hf⟩
    · rintro ⟨hs, ha, hg, hn, hp, hf⟩
      exact ⟨⟨hs, ha, hg, hn, hp⟩, hf⟩
  · exact (hsort.sublist hfs).imp fun h => h.sublist hsub

end

def apartment (id : Int) : Record :=
  { id, about :=
    { title := "Apartment", description := none, address := none, lat := none, lng := none
      maxGuests := 2, minimumNights := 1, pricePerNight := none, currency := none
      isActive := true } }

/-- The calendar ends here. -/
def lastDay : Day := ⟨Day.highest, by decide⟩

/-- Two apartments, the first of which is taken until the end of the calendar. -/
def apartments : InHouse where
  inventory := ⟨[apartment 1, apartment 2]⟩
  calendars :=
    { feeds := [⟨0, 1, "http://a"⟩]
      blocks := [⟨1, 1, "http://a", ⟨⟨Day.highest - 2, by decide⟩, lastDay⟩⟩]
      fresh := 2 }
  down := []
  defaults := .standard
  geocoder := fun _ => .ok none

def departure : Query := ⟨⟨none, none, none⟩, none, some lastDay, some 2⟩

theorem search_departure : ∃ rs : List Record,
    (apartments.search departure).1 = .ok (rs.map (·.toListing inHouseName)) ∧
      apartment 1 ∉ rs ∧ apartment 2 ∈ rs := by
  obtain ⟨rs, hs, -, hmem, -⟩ := search_exact (h := apartments) (q := departure)
    (by decide) (by decide) (by decide) (by decide)
  refine ⟨rs, hs, fun h1 => ?_, (hmem _).mpr ?_⟩
  · exact ((hmem _).mp h1).free _ List.mem_cons_self rfl (Day.highest - 1) rfl (by decide)
  · refine ⟨by simp [apartments], rfl, by decide, fun _ _ ha => (by cases ha), trivial, ?_⟩
    intro b hb hid
    rw [List.mem_singleton.mp hb] at hid
    exact absurd hid (by decide)

end InHouse

end Lodging.Listing
