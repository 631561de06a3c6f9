import Lodging.Proofs.Listing.Lookup
import Lodging.Web.Handler

/-! # The listing that a path means

The routes for calendars look a listing up first, as the route for a listing does, and take its number
from what the lookup hands out. So they mean the listing that the lookup shows, and where it shows none
they answer as the lookup does. -/

namespace Lodging

/-- Whether there is a record with this number, which is positive. -/
def Inventory.Houses (i : Inventory) (n : Int) : Prop := 0 < n ∧ ∃ r ∈ i.records, r.id = n

theorem Inventory.Houses.insert {i : Inventory} {n : Int} (h : i.Houses n) (r : Record) :
    (i.insert r).Houses n := by
  obtain ⟨hpos, r', hr', rfl⟩ := h
  by_cases he : r.id = r'.id
  · exact ⟨hpos, r, List.mem_append_right _ (List.mem_singleton_self r), he⟩
  · exact ⟨hpos, r', List.mem_append_left _ (List.mem_filter.mpr ⟨hr', by simpa using Ne.symm he⟩), rfl⟩

namespace Web

open Listing (inHouseName)

namespace Services

variable {s : Services} {id : String} {n : Int}

/-! ## The number behind an identifier -/

theorem lookup_of_inHouse (h : (s.registry.parse id).owner = .inHouse) (demand : Listing.Demand)
    (reservations : Bool) :
    s.lookup demand id reservations =
      (s.inHouse.lookup ⟨demand, id, reservations⟩, [⟨.inHouse, ⟨demand, id, reservations⟩⟩]) := by
  have hlocal : (s.registry.parse id).localId = id := by
    have := Listing.Reference.text_parse s.registry.isPartner id
    rwa [Listing.Reference.text, show (Listing.Reference.parse _ id).owner = _ from h] at this
  simp only [lookup, Listing.Registry.lookup, h, hlocal]

/-- The number is that of the record the identifier leads to; it is always read back from the listing
that is handed out. -/
theorem inHouseListing_eq (s : Services) (id : String) :
    (s.inHouseListing id).1 =
      match (s.registry.parse id).owner with
      | .partner _ => .error (.notInHouse id)
      | .inHouse => (s.inHouse.load id).mapError Error.listing |>.map (·.id) := by
  unfold inHouseListing
  cases ho : (s.registry.parse id).owner with
  | partner name => rfl
  | inHouse =>
    simp only [lookup_of_inHouse ho, Listing.InHouse.lookup_any_bare]
    cases hl : s.inHouse.load id with
    | error e => rfl
    | ok r =>
      obtain ⟨-, hread⟩ := Listing.InHouse.numericId_eq_ok (Listing.InHouse.load_eq_ok hl).1
      have hback : Decimal.read? Decimal.int64 (r.toListing inHouseName).id.toList = some r.id :=
        (congrArg _ String.toList_ofList).trans hread
      rw [show Except.map (·.toListing inHouseName) (.ok r) = .ok (r.toListing inHouseName) from rfl]
      simp only [hback]
      rfl

theorem inHouseListing_eq_ok_iff :
    (s.inHouseListing id).1 = .ok n ↔
      (s.registry.parse id).owner = .inHouse ∧ ∃ r, s.inHouse.load id = .ok r ∧ r.id = n := by
  rw [inHouseListing_eq]
  cases (s.registry.parse id).owner with
  | partner name => simp
  | inHouse =>
    cases s.inHouse.load id with
    | error e =>
      constructor
      · intro h
        cases h
      · rintro ⟨-, r, hr, -⟩
        cases hr
    | ok r =>
      constructor
      · intro h
        exact ⟨rfl, r, rfl, Except.ok.inj h⟩
      · rintro ⟨-, r', hr, rfl⟩
        exact congrArg (fun r => Except.ok r.id) (Except.ok.inj hr)

/-- The listing is there. -/
theorem houses_of_inHouseListing (h : (s.inHouseListing id).1 = .ok n) :
    s.inHouse.inventory.Houses n := by
  obtain ⟨-, r, hl, rfl⟩ := inHouseListing_eq_ok_iff.mp h
  obtain ⟨hid, hr⟩ := Listing.InHouse.load_eq_ok hl
  exact ⟨(Listing.InHouse.numericId_eq_ok hid).1, r, hr, rfl⟩

/-- A question for whatever listing is answered in-house, with the record of this number. -/
def ShowsRecord (s : Services) (id : String) (reservations : Bool) (n : Int) : Prop :=
  ∃ r ∈ s.inHouse.inventory.records, r.id = n ∧
    s.lookup .any id reservations =
      (.ok { r.toListing inHouseName with
        reservations :=
          if reservations then (s.inHouse.calendars.findBlocks n).map (·.period) else [] },
        [⟨.inHouse, ⟨.any, id, reservations⟩⟩])

theorem owner_of_visit {demand : Listing.Demand} {reservations : Bool} {i : Listing.Inquiry}
    (h : (s.lookup demand id reservations).2 = [⟨.inHouse, i⟩]) :
    (s.registry.parse id).owner = .inHouse := by
  unfold lookup Listing.Registry.lookup at h
  cases ho : (s.registry.parse id).owner with
  | inHouse => rfl
  | partner name =>
    simp only [ho] at h
    split at h <;> cases h

/-- The calendar routes find the number of the record that a lookup shows. -/
theorem showsRecord_iff (hdown : s.inHouse.down = []) (reservations : Bool) :
    s.ShowsRecord id reservations n ↔ (s.inHouseListing id).1 = .ok n := by
  rw [inHouseListing_eq_ok_iff]
  constructor
  · rintro ⟨r, -, rfl, h⟩
    have ho := owner_of_visit (congrArg Prod.snd h)
    refine ⟨ho, ?_⟩
    rw [lookup_of_inHouse ho, Listing.InHouse.lookup_any (by simp [hdown])] at h
    have hresult := congrArg Prod.fst h
    cases hl : s.inHouse.load id with
    | error e =>
      rw [hl] at hresult
      cases hresult
    | ok r' =>
      rw [hl] at hresult
      -- the number is written into what is handed out, so it is that of the record that is shown
      have hid : String.ofList (Decimal.signed r'.id) = String.ofList (Decimal.signed r.id) :=
        congrArg Listing.id (Except.ok.inj hresult)
      exact ⟨r', rfl, Decimal.signed_inj (String.ofList_injective hid)⟩
  · rintro ⟨ho, r, hl, rfl⟩
    refine ⟨r, (Listing.InHouse.load_eq_ok hl).2, rfl, ?_⟩
    rw [lookup_of_inHouse ho, Listing.InHouse.lookup_any (by simp [hdown]), hl]
    rfl

/-! ## The routes -/

end Services

structure Request.Below (r : Request) (method : String) (segment : List Char)
    (rest : List (List Char)) : Prop where
  method : r.method = method
  segments : r.segments? = some ("api".toList :: "listings".toList :: segment :: rest)

theorem Route.named_of_ne_nil {f : String → Route} {segment : List Char} (h : segment ≠ []) :
    ofSegments?.named f segment = some (f (Request.decodeSegment segment)) :=
  if_neg fun he => h (List.isEmpty_iff.mp he)

/-- The route is about the identifier that the segment spells. -/
theorem Request.Below.route {r : Request} {method : String} {segment : List Char}
    {rest : List (List Char)} {f : String → Route} (h : r.Below method segment rest)
    (hne : segment ≠ [])
    (hf : Route.ofSegments? method ("api".toList :: "listings".toList :: segment :: rest) =
      Route.ofSegments?.named f segment) :
    Route.ofRequest? r = some (f (Request.decodeSegment segment)) := by
  rw [Route.ofRequest?, h.segments, h.method, Option.bind_some, hf, Route.named_of_ne_nil hne]

namespace Route

/-- Unless it is that of a search, the path of a listing is taken for one. -/
theorem ofSegments?_listing {segment : List Char} (hsearch : segment ≠ "search".toList) :
    ofSegments? "GET" ["api".toList, "listings".toList, segment] =
      ofSegments?.named .listing segment := by
  have hname : String.ofList segment = "search" → False := fun he =>
    hsearch (String.ofList_injective he)
  simp only [ofSegments?, List.map_cons, List.map_nil, String.ofList_toList]

theorem ofSegments?_calendars (segment : List Char) :
    let path := ["api".toList, "listings".toList, segment, "calendars".toList]
    ofSegments? "GET" path = ofSegments?.named .calendars segment ∧
      ofSegments? "PUT" path = ofSegments?.named .setCalendars segment := by
  simp only [ofSegments?, List.map_cons, List.map_nil, String.ofList_toList, and_self]

end Route

namespace Services

variable {s : Services}

theorem handle_calendars {r : Request} {id : String} (hr : Route.ofRequest? r = some (.calendars id))
    (hdown : s.inHouse.down = []) :
    (s.handle r).1 = match (s.inHouseListing id).1 with
      | .error e => .respond (.ofError e)
      | .ok n => .respond (.ofFeeds n (s.inHouse.calendars.findFeeds (some n))) := by
  cases hn : (s.inHouseListing id).1 with
  | error e => simp only [handle, hr, handle.respond, showFeeds, hn]
  | ok n =>
    simp only [handle, hr, handle.respond, showFeeds, hn, hdown]
    rfl

theorem handle_setCalendars {r : Request} {id : String} {urls : List String}
    (hr : Route.ofRequest? r = some (.setCalendars id)) (hurls : readUrls r = .ok urls) :
    (s.handle r).1 = match (s.inHouseListing id).1 with
      | .error e => .respond (.ofError e)
      | .ok n => .setFeeds n urls := by
  cases hn : (s.inHouseListing id).1 <;> simp only [handle, hr, setFeeds, hurls, hn]

theorem handle_listing {r : Request} {id : String} {reservations : Bool}
    (hr : Route.ofRequest? r = some (.listing id)) (hres : readLookup r = .ok reservations) :
    s.handle r = (.respond (.ofListing (s.lookup .any id reservations).1),
      (s.lookup .any id reservations).2) := by
  simp only [handle, hr, handle.respond, showListing, hres]

/-- Feeds are only ever given to listings that are there. -/
theorem houses_of_handle {r : Request} {n : Int} {urls : List String}
    (h : (s.handle r).1 = .setFeeds n urls) : s.inHouse.inventory.Houses n := by
  unfold handle at h
  split at h
  · cases h
  · cases h
  · split at h <;> cases h
  · cases h
  · cases h
  · cases h
  · next raw _ =>
    unfold setFeeds at h
    split at h
    · cases h
    · dsimp only at h
      split at h
      · cases h
      · next hlisting =>
        cases h
        exact houses_of_inHouseListing hlisting
  · split at h <;> cases h

end Services

/-! ## Documents tell the listing -/

/-- The document begins with the number of the listing. -/
theorem Response.body_ofFeeds (n : Int) (fs : List Calendar.Feed) :
    ∃ rest, (ofFeeds n fs).body.toList =
      "\x7b\"listing_id\":".toList ++ (Decimal.signed n ++ ',' :: rest) := by
  refine ⟨Json.textOnto "feeds" (':' :: Json.onto ['\x7d'] (.ofList Calendar.Feed.toJson fs)), ?_⟩
  rw [ofFeeds, ok, Json.render, String.toList_ofList]
  rfl

theorem Response.listing_of_ofFeeds {m n : Int} {fs gs : List Calendar.Feed}
    (h : ofFeeds m fs = ofFeeds n gs) : m = n := by
  have hcomma : ∀ i : Int, ',' ∉ Decimal.signed i := by
    intro i hc
    rcases Decimal.mem_signed hc with hc | hc <;> revert hc <;> decide
  obtain ⟨rest, hm⟩ := body_ofFeeds m fs
  obtain ⟨rest', hn⟩ := body_ofFeeds n gs
  rw [h, hn] at hm
  have hcut := congrArg (Text.cut? ',') (List.append_cancel_left hm)
  rw [Text.cut?_append _ (hcomma n), Text.cut?_append _ (hcomma m)] at hcut
  exact (Decimal.signed_inj (congrArg Prod.fst (Option.some.inj hcut))).symm

theorem Error.le_status (e : Error) : 400 ≤ e.parts.1 := by
  unfold parts
  split <;> simp [parts.invalid]

theorem Response.ofFeeds_ne_ofError (n : Int) (fs : List Calendar.Feed) (e : Error) :
    ofFeeds n fs ≠ ofError e := by
  intro h
  have hstatus : 200 = e.parts.1 := congrArg Response.status h
  have := e.le_status
  omega

/-! ## What is done about the listing that a lookup shows -/

/-- An action goes by a lookup: where a record is shown it is the action for the number of the record,
an identifier of a partner is refused, and otherwise the response is that to the lookup. -/
structure Services.Follows (s : Services) (id : String) (reservations : Bool) (act : Int → Action)
    (a : Action) : Prop where
  acts : ∀ n, a = act n ↔ s.ShowsRecord id reservations n
  partner : ∀ name, (s.registry.parse id).owner = .partner name →
    ∃ response, a = .respond response ∧ response.status = 400
  otherwise : (s.registry.parse id).owner = .inHouse → (∀ n, ¬ s.ShowsRecord id reservations n) →
    ∃ e, (s.lookup .any id reservations).1 = .error e ∧ a = .respond (.ofListing (.error e))

theorem Services.follows_of_inHouseListing {s : Services} {id : String} {act : Int → Action}
    (hdown : s.inHouse.down = []) (hinj : ∀ m n, act m = act n → m = n)
    (hne : ∀ n e, act n ≠ .respond (.ofError e)) (reservations : Bool) :
    s.Follows id reservations act (match (s.inHouseListing id).1 with
      | .error e => .respond (.ofError e)
      | .ok n => act n) where
  acts := by
    intro n
    rw [showsRecord_iff hdown]
    cases (s.inHouseListing id).1 with
    | error e => exact ⟨fun h => absurd h.symm (hne n e), fun h => by cases h⟩
    | ok m => exact ⟨fun h => congrArg Except.ok (hinj m n h), fun h => congrArg act (Except.ok.inj h)⟩
  partner := by
    intro name ho
    rw [inHouseListing_eq, ho]
    exact ⟨_, rfl, rfl⟩
  otherwise := by
    intro ho hnone
    rw [inHouseListing_eq, ho, lookup_of_inHouse ho, Listing.InHouse.lookup_any (by simp [hdown])]
    cases hl : s.inHouse.load id with
    | error e => exact ⟨e, rfl, rfl⟩
    | ok r =>
      refine absurd ((showsRecord_iff hdown reservations).mpr ?_) (hnone r.id)
      exact inHouseListing_eq_ok_iff.mpr ⟨ho, r, hl, rfl⟩

end Web

end Lodging
