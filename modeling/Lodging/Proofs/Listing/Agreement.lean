import Lodging.Proofs.Calendar.History
import Lodging.Proofs.Listing.Lookup
import Lodging.Proofs.Listing.Search
import Lodging.Proofs.Remote.PartnerApi
import Lodging.Proofs.Text.Blank
import Mathlib.Data.List.Induction

/-! # Three ways to a listing

A listing is found by a search, or asked for under its identifier, by callers who want active listings
only or by callers who take any. The two questions differ in nothing but inactive listings, in the house
and on partners. What a search of the house returns is what is found under the identifier it has there,
and the busy periods that a lookup attaches are those that keep it out of other searches: the search asks
the calendars for blocks that overlap a window, the lookup for all blocks of one listing. -/

namespace Lodging

namespace Inventory

def ofInsertions (rs : List Record) : Inventory := rs.foldl insert empty

theorem ofInsertions_concat (rs : List Record) (r : Record) :
    ofInsertions (rs ++ [r]) = (ofInsertions rs).insert r := by
  simp [ofInsertions]

theorem nodup_ofInsertions (rs : List Record) : ((ofInsertions rs).records.map (·.id)).Nodup := by
  induction rs using List.reverseRecOn with
  | nil => exact List.nodup_nil
  | append_singleton rs r ih =>
    rw [ofInsertions_concat]
    exact nodup_insert ih r

theorem mem_of_mem_ofInsertions {rs : List Record} {r : Record} (h : r ∈ (ofInsertions rs).records) :
    r ∈ rs := by
  induction rs using List.reverseRecOn with
  | nil => cases h
  | append_singleton rs s ih =>
    rw [ofInsertions_concat, insert, List.mem_append] at h
    exact List.mem_append.mpr (h.imp (fun h => ih (List.mem_filter.mp h).1) id)

/-- A record is found under its identifier if no other has it. -/
theorem get?_of_mem {i : Inventory} (h : (i.records.map (·.id)).Nodup) {r : Record}
    (hr : r ∈ i.records) : i.get? r.id = some r := by
  cases hget : i.get? r.id with
  | none =>
    have hnone := List.find?_eq_none.mp hget r hr
    simp at hnone
  | some s =>
    have hs : s.id = r.id := by simpa using List.find?_some hget
    rw [List.inj_on_of_nodup_map h (List.mem_of_find?_eq_some hget) hr hs]

end Inventory

namespace Listing

/-- An answer for a caller who wants active listings only. -/
def onlyActive (id : String) : Except Error Listing → Except Error Listing
  | .ok l => if l.about.isActive then .ok l else .error (.inactive id)
  | .error e => .error e

theorem handOut_active (id : String) (l : Listing) : handOut .active id l = onlyActive id (.ok l) := by
  cases hactive : l.about.isActive <;> simp [handOut, onlyActive, hactive]

end Listing

/-! ## Partners -/

theorem Remote.PartnerApi.lookup_active (p : PartnerApi) (net : Http.Network) (id : String)
    (reservations : Bool) : p.lookup net ⟨.active, id, reservations⟩ =
      (Listing.onlyActive id (p.lookup net ⟨.any, id, reservations⟩).1,
        (p.lookup net ⟨.any, id, reservations⟩).2) := by
  simp only [lookup_eq]
  generalize Http.send net partnerUserAgent (.ofList (p.listingUrl id)) _ = sending
  cases ofSend sending.1 >>= p.readOffer id with
  | error e => rfl
  | ok o => exact Prod.ext (Listing.handOut_active id (p.listing o)) rfl

namespace Listing.InHouse

variable {h : InHouse}

/-! ## In the house -/

theorem lookup_active (hup : .findBlocks ∉ h.down) (id : String) (reservations : Bool) :
    h.lookup ⟨.active, id, reservations⟩ = onlyActive id (h.lookup ⟨.any, id, reservations⟩) := by
  rw [lookup_any hup, lookup]
  cases h.load id with
  | error e => rfl
  | ok r =>
    dsimp only [bind, Except.bind, Except.map]
    rw [handOut_active]
    cases hactive : r.about.isActive <;> cases reservations <;>
      simp [onlyActive, Record.toListing, hactive, withReservations_eq hup, pure, Except.pure]

/-- An identifier written for a positive number of 64 bits is read as that number. -/
theorem numericId_signed {n : Int} (hpos : 0 < n) (hle : n ≤ Decimal.int64.high) :
    numericId (.ofList (Decimal.signed n)) = .ok n := by
  have htrim : Text.trim (Decimal.signed n) = Decimal.signed n := by
    refine Text.trim_eq_self_of_forall fun c hc => ?_
    rcases Decimal.mem_signed hc with rfl | hdigit
    · decide
    · exact Text.isBlank_of_isDigit hdigit
  simp [numericId, htrim, Decimal.read?_signed (Int.le_of_lt hpos) hle, hpos]

theorem load_of_mem (hids : (h.inventory.records.map (·.id)).Nodup) {r : Record}
    (hr : r ∈ h.inventory.records) (hpos : 0 < r.id) (hle : r.id ≤ Decimal.int64.high) :
    h.load (.ofList (Decimal.signed r.id)) = ask h.down .findById r := by
  rw [load, numericId_signed hpos hle]
  dsimp only [bind, Except.bind]
  rw [Inventory.get?_of_mem hids hr]
  by_cases hdown : Access.findById ∈ h.down
  · simp [ask, hdown]
  · simp [ask, hdown, pure, Except.pure]

/-- What a lookup hands out of a record while the calendars answer. -/
def shown (h : InHouse) (reservations : Bool) (r : Record) : Listing :=
  { r.toListing inHouseName with
    reservations := if reservations then (h.calendars.findBlocks r.id).map (·.period) else [] }

/-- Whoever asks for it, an active record is found under its identifier. -/
theorem lookup_of_mem (hids : (h.inventory.records.map (·.id)).Nodup) (hup : .findBlocks ∉ h.down)
    {r : Record} (hr : r ∈ h.inventory.records) (hpos : 0 < r.id) (hle : r.id ≤ Decimal.int64.high)
    (hactive : r.about.isActive = true) (demand : Demand) (reservations : Bool) :
    h.lookup ⟨demand, .ofList (Decimal.signed r.id), reservations⟩ =
      ask h.down .findById (h.shown reservations r) := by
  have hany : h.lookup ⟨.any, .ofList (Decimal.signed r.id), reservations⟩ =
      ask h.down .findById (h.shown reservations r) := by
    rw [lookup_any hup, load_of_mem hids hr hpos hle]
    by_cases hdown : Access.findById ∈ h.down <;> simp [ask, hdown, Except.map, shown]
  cases demand with
  | any => exact hany
  | active =>
    rw [lookup_active hup, hany]
    by_cases hdown : Access.findById ∈ h.down
    · simp [ask, hdown, onlyActive]
    · simp [ask, hdown, onlyActive, shown, Record.toListing, hactive]

/-! ## Searches -/

/-- What a query asks of a listing beside its nights being free. -/
structure Suits (h : InHouse) (q : Query) (d : Description) : Prop where
  guests : min (q.partySize : Int) (2 ^ 31 - 1) ≤ d.maxGuests
  nights : ∀ a b, q.checkIn = some a → q.checkOut = some b → a < b →
    d.minimumNights ≤ b.number - a.number
  inArea : Admits (h.place q).filter d

theorem mem_of_mem_freeIn {w : Option Period} {rs free : List Record} (hfree : h.freeIn w rs = .ok free)
    {r : Record} (hr : r ∈ free) : r ∈ rs := by
  unfold freeIn at hfree
  split at hfree
  · rwa [Except.ok.inj hfree]
  · cases hbusy : ofCalendar (Calendar.ask h.down .findOverlapping
        (h.calendars.findOverlapping (rs.map (·.id)) _)) with
    | error e =>
      rw [hbusy] at hfree
      cases hfree
    | ok busy =>
      rw [hbusy] at hfree
      rw [← Except.ok.inj hfree] at hr
      exact (List.mem_filter.mp hr).1

/-- What a search returns is an active record. -/
theorem record_of_search {q : Query} {ls : List Listing} (hs : (h.search q).1 = .ok ls) {l : Listing}
    (hl : l ∈ ls) : ∃ r ∈ h.inventory.records, r.about.isActive = true ∧
      l = r.toListing inHouseName := by
  obtain ⟨-, free, hfree, rfl⟩ := search_eq_ok hs
  obtain ⟨r, hr, rfl⟩ := List.mem_map.mp hl
  obtain ⟨hstored, hmatches⟩ := mem_candidates.mp (mem_of_mem_freeIn hfree hr)
  exact ⟨r, hstored, (matches_iff.mp hmatches).1, rfl⟩

theorem perm_findBlocks (s : Calendar.Store) (listing : Int) :
    (s.findBlocks listing).Perm (s.blocks.filter (·.listing == listing)) :=
  List.mergeSort_perm _ _

/-- A record has a night of a stay taken exactly if one of its blocks has the night. -/
theorem free_iff_findBlocks {q : Query} {r : Record} : h.Free q r ↔
    ∀ b ∈ h.calendars.findBlocks r.id, ∀ n, q.Requests n → ¬ b.period.Covers n := by
  simp only [Free, (perm_findBlocks h.calendars r.id).mem_iff, List.mem_filter, beq_iff_eq, and_imp]

/-- A record that suits a query is left out exactly if one of its blocks has a night of the stay. -/
theorem search_of_suits (hids : (h.inventory.records.map (·.id)).Nodup)
    (hup : .findOverlapping ∉ h.down) (hlist : .findListings ∉ h.down)
    (hblocks : ∀ b ∈ h.calendars.blocks, b.period.start < b.period.stop) {r : Record}
    (hr : r ∈ h.inventory.records) (hactive : r.about.isActive = true) {q : Query}
    (hq : h.Suits q r.about) : ∃ ls, (h.search q).1 = .ok ls ∧
      (∀ l ∈ ls, l.id = .ofList (Decimal.signed r.id) → l = r.toListing inHouseName) ∧
      (r.toListing inHouseName ∉ ls ↔
        ∃ b ∈ h.calendars.findBlocks r.id, ∃ n, q.Requests n ∧ b.period.Covers n) := by
  obtain ⟨free, hfree, -, hmem⟩ := freeIn_spec hup hblocks (h.candidates q)
  have hfound := search_of_freeIn hlist hfree
  have hsame : ∀ l ∈ free.map (·.toListing inHouseName), l.id = .ofList (Decimal.signed r.id) →
      r ∈ free ∧ l = r.toListing inHouseName := by
    intro l hl hid
    obtain ⟨s, hs, rfl⟩ := List.mem_map.mp hl
    have hids' : s.id = r.id := Decimal.signed_inj (String.ofList_injective hid)
    have hstored := (mem_candidates.mp ((hmem s).mp hs).1).1
    obtain rfl := List.inj_on_of_nodup_map hids hstored hr hids'
    exact ⟨hs, rfl⟩
  have hiff : r.toListing inHouseName ∈ free.map (·.toListing inHouseName) ↔ h.Free q r := by
    constructor
    · intro hl
      exact ((hmem r).mp (hsame _ hl rfl).1).2
    · intro hf
      refine List.mem_map_of_mem ((hmem r).mpr ⟨mem_candidates.mpr ⟨hr, ?_⟩, hf⟩)
      exact matches_iff.mpr ⟨hactive, hq.guests, hq.nights, hq.inArea⟩
  refine ⟨_, hfound, fun l hl hid => (hsame l hl hid).2, ?_⟩
  rw [hiff, free_iff_findBlocks]
  push Not
  rfl

/-- A listing with this number is found under its identifier as it is, or with its blocks by their first
days as busy periods. If no block is empty, a search that it suits leaves it out exactly if one of these
has a night of the stay. -/
def Agrees (h : InHouse) (n : Int) (l : Listing) : Prop :=
  (∀ demand, h.lookup ⟨demand, l.id, false⟩ = ask h.down .findById l) ∧
  ∃ bs : List Calendar.Block, bs.Perm (h.calendars.blocks.filter (·.listing == n)) ∧
    (bs.Pairwise fun a b => a.period.start ≤ b.period.start) ∧
    (∀ demand, h.lookup ⟨demand, l.id, true⟩ =
      ask h.down .findById { l with reservations := bs.map (·.period) }) ∧
    ((∀ b ∈ h.calendars.blocks, b.period.start < b.period.stop) →
      ∀ q, h.Suits q l.about → ∃ ls, (h.search q).1 = .ok ls ∧ (∀ l' ∈ ls, l'.id = l.id → l' = l) ∧
        (l ∉ ls ↔ ∃ b ∈ bs, ∃ night, q.Requests night ∧ b.period.Covers night))

theorem agrees_of_mem (hids : (h.inventory.records.map (·.id)).Nodup)
    (hblocks : .findBlocks ∉ h.down) (hoverlapping : .findOverlapping ∉ h.down)
    (hlist : .findListings ∉ h.down) {r : Record} (hr : r ∈ h.inventory.records) (hpos : 0 < r.id)
    (hle : r.id ≤ Decimal.int64.high) (hactive : r.about.isActive = true) :
    h.Agrees r.id (r.toListing inHouseName) := by
  have hfound := lookup_of_mem hids hblocks hr hpos hle hactive
  refine ⟨(hfound · false), h.calendars.findBlocks r.id, perm_findBlocks h.calendars r.id,
    h.calendars.pairwise_findBlocks r.id, (hfound · true), fun hnonempty q hsuits => ?_⟩
  exact search_of_suits hids hoverlapping hlist hnonempty hr hactive hsuits

/-- Whatever the inventory and the calendars hold, as long as the calendars answer: who asks for an
active listing gets what everybody gets, or is told that it is inactive, in the house and on partners
alike. Every listing that a search of the house returns is active, and lookups and other searches agree
about it if its number is positive; and so they do about every active record with a positive number, as
long as searches get the inventory. -/
theorem three_ways_agree {rs : List Record} (hinventory : h.inventory = .ofInsertions rs)
    (hids : ∀ r ∈ rs, r.id ≤ Decimal.int64.high) (hblocks : .findBlocks ∉ h.down)
    (hoverlapping : .findOverlapping ∉ h.down) :
    (∀ id reservations, h.lookup ⟨.active, id, reservations⟩ =
      onlyActive id (h.lookup ⟨.any, id, reservations⟩)) ∧
    (∀ (p : Remote.PartnerApi) (net : Http.Network) id reservations,
      p.lookup net ⟨.active, id, reservations⟩ =
        (onlyActive id (p.lookup net ⟨.any, id, reservations⟩).1,
          (p.lookup net ⟨.any, id, reservations⟩).2)) ∧
    (∀ (q : Query) (ls : List Listing), (h.search q).1 = .ok ls → ∀ l ∈ ls,
      l.about.isActive = true ∧
      ∀ n, 0 < n → l.id = .ofList (Decimal.signed n) → h.Agrees n l) ∧
    (.findListings ∉ h.down → ∀ r ∈ h.inventory.records, r.about.isActive = true → 0 < r.id →
      h.Agrees r.id (r.toListing inHouseName)) := by
  have hagrees : .findListings ∉ h.down → ∀ r ∈ h.inventory.records, r.about.isActive = true →
      0 < r.id → h.Agrees r.id (r.toListing inHouseName) := fun hlist r hr hactive hpos =>
    agrees_of_mem (hinventory ▸ Inventory.nodup_ofInsertions rs) hblocks hoverlapping hlist hr hpos
      (hids r (Inventory.mem_of_mem_ofInsertions (hinventory ▸ hr))) hactive
  refine ⟨lookup_active hblocks, fun p net => p.lookup_active net, fun q ls hs l hl => ?_, hagrees⟩
  obtain ⟨r, hr, hactive, rfl⟩ := record_of_search hs hl
  refine ⟨hactive, fun n hpos hid => ?_⟩
  obtain rfl : r.id = n := Decimal.signed_inj (String.ofList_injective hid)
  exact hagrees (search_eq_ok hs).1 r hr hactive hpos

def anywhere : Query := ⟨⟨none, none, none⟩, none, none, none⟩

/-- The first apartment is found by a search without days and under its number, and left out of a
search for its last night. -/
theorem apartment_ways_agree :
    (∀ demand, apartments.lookup ⟨demand, "1", false⟩ =
      .ok ((apartment 1).toListing inHouseName)) ∧
      ∃ ls, (apartments.search departure).1 = .ok ls ∧ (apartment 1).toListing inHouseName ∉ ls := by
  have hsearch : (apartments.search anywhere).1 = .ok
      [(apartment 1).toListing inHouseName, (apartment 2).toListing inHouseName] := rfl
  have hid : ((apartment 1).toListing inHouseName).id = .ofList (Decimal.signed 1) := rfl
  have hinventory : apartments.inventory = .ofInsertions [apartment 1, apartment 2] := rfl
  obtain ⟨-, -, hfound, -⟩ := three_ways_agree hinventory (by decide) (by decide) (by decide)
  obtain ⟨-, hways⟩ := hfound anywhere _ hsearch _ (List.mem_cons_self ..)
  obtain ⟨hbare, bs, hperm, -, -, hbusy⟩ := hways 1 (by decide) hid
  obtain ⟨ls, hls, -, hout⟩ := hbusy (by decide) departure
    ⟨by decide, fun _ _ ha => (by cases ha), trivial⟩
  have hone : ((apartment 1).toListing inHouseName).id = "1" := by decide +kernel
  have hlast : ∃ b ∈ bs, ∃ n, departure.Requests n ∧ b.period.Covers n :=
    ⟨_, hperm.mem_iff.mpr (List.mem_cons_self ..), Day.highest - 1, rfl, by decide⟩
  exact ⟨fun demand => hone ▸ hbare demand, ls, hls, hout.mpr hlast⟩

end Listing.InHouse

end Lodging
