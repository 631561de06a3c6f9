import Lodging.Proofs.Sync.Tenancy
import Lodging.Proofs.Web.Lookup
import Lodging.Proofs.Web.Site

/-! # Calendars of listings

A call that gives a listing new feeds is about a listing that was looked up, so there is a record of it.
Records are replaced but never taken away, and feeds are only registered by such calls; so every feed is
of a listing with a record, for good. -/

namespace Lodging.Web.Site

variable {w w' : Site}

/-- All feeds, and all calls that are made or going to be made for new ones, are of listings with a
record. -/
structure Housed (w : Site) : Prop where
  tenants : w.sync.Tenants w.inventory.Houses
  decided : ∀ (n : Nat) (x : Exchange) (listing about : Int) (urls : List String),
    w.exchanges[n]? = some x → x.progress = .decided (.setFeeds listing urls) about →
    w.inventory.Houses listing

theorem houses_of_progressOf {around : Surroundings} {r : Request} {listing about : Int}
    {urls : List String} (h : w.progressOf around r = .decided (.setFeeds listing urls) about) :
    w.inventory.Houses listing := by
  unfold progressOf at h
  split at h
  · cases h
  · cases h
  · next hn =>
    cases h
    exact Services.houses_of_handle hn
  · cases h

theorem Housed.tenants_move {e : Event} (hw : w.Housed) (h : Move w e w') :
    w'.sync.Tenants w'.inventory.Houses := by
  cases h with
  | receive _ _ => exact hw.tenants
  | @call n r call listing hx =>
    -- the listing was there when the request came down to the call, and it is there still
    refine hw.tenants.move (Sync.State.submit_move w.batchSize w.sync call) ?_
    intro l urls he
    cases he
    exact hw.decided n _ l listing urls hx rfl
  | carry hc hstep =>
    refine hw.tenants.move (Sync.State.step?_move hstep) ?_
    -- a step of a call makes no call
    rintro l urls rfl
    cases hc
  | answer _ _ => exact hw.tenants
  | tick =>
    refine hw.tenants.move (Sync.State.submit_move w.batchSize w.sync (.refresh none)) ?_
    intro l urls he
    cases he
  | insert r => exact hw.tenants.mono fun _ h => h.insert r

theorem Housed.decided_move {e : Event} (hw : w.Housed) (h : Move w e w') {n : Nat} {x : Exchange}
    {listing about : Int} {urls : List String} (hx : w'.exchanges[n]? = some x)
    (hp : x.progress = .decided (.setFeeds listing urls) about) : w'.inventory.Houses listing := by
  have hkeep : w.inventory.Houses listing → w'.inventory.Houses listing := fun hl => by
    cases h with
    | insert r => exact hl.insert r
    | _ => exact hl
  refine hkeep ?_
  cases h.becomes hx with
  | same hx => exact hw.decided n x listing about urls hx hp
  | received _ => exact houses_of_progressOf hp
  | called _ => cases hp
  | answered _ _ => cases hp

theorem Housed.move {e : Event} (hw : w.Housed) (h : Move w e w') : w'.Housed :=
  ⟨hw.tenants_move h, fun _ _ _ _ _ hx hp => hw.decided_move h hx hp⟩

theorem housed_create (registry : Listing.Registry) (defaults : Geo.Defaults) (batchSize : Nat)
    (inventory : Inventory) : (create registry defaults batchSize inventory).Housed :=
  ⟨Sync.State.tenants_empty, fun _ _ _ _ _ hx => by cases hx⟩

theorem Housed.run {es : List Event} (hw : w.Housed) (h : w.run? es = some w') : w'.Housed :=
  run?_induction (fun hv h => hv.move (step?_move h)) hw h

/-- Whatever requests are answered and records added, from no feeds at all on: every feed is of a listing
with a positive number and a record. While the stores answer, and for every segment of a path, the
routes for the calendars of a listing are about the listing that the lookup of the segment shows, refuse
identifiers of partners, and otherwise respond as to the lookup; it is the lookup of the route for a
listing. What the lookup hands out can always be told by its number. -/
theorem calendars_of_listings :
    (∀ (registry : Listing.Registry) (defaults : Geo.Defaults) (batchSize : Nat)
        (inventory : Inventory) (es : List Event) (w : Site),
      (create registry defaults batchSize inventory).run? es = some w →
      ∀ f ∈ w.sync.store.feeds, 0 < f.listing ∧ ∃ r ∈ w.inventory.records, r.id = f.listing) ∧
    (∀ (s : Services) (segment : List Char) (reservations : Bool),
      s.inHouse.down = [] → segment ≠ [] →
      (∀ look : Request, look.Below "GET" segment [] → segment ≠ "search".toList →
        readLookup look = .ok reservations →
        s.handle look =
          (.respond (.ofListing (s.lookup .any (Request.decodeSegment segment) reservations).1),
            (s.lookup .any (Request.decodeSegment segment) reservations).2)) ∧
      (∀ get : Request, get.Below "GET" segment ["calendars".toList] →
        s.Follows (Request.decodeSegment segment) reservations
          (fun n => .respond (.ofFeeds n (s.inHouse.calendars.findFeeds (some n))))
          (s.handle get).1) ∧
      ∀ (put : Request) (urls : List String), put.Below "PUT" segment ["calendars".toList] →
        readUrls put = .ok urls → (∀ u ∈ urls, Calendar.isWebUrl u = true) →
        s.Follows (Request.decodeSegment segment) reservations (.setFeeds · urls) (s.handle put).1 ∧
          ∀ n, (Sync.Request.setFeeds n urls).check = .ok ()) ∧
    ∀ (s : Services) (id x : String), (s.inHouseListing id).1 ≠ .error (.badListing x) := by
  refine ⟨?_, ?_, ?_⟩
  · intro registry defaults batchSize inventory es w h f hf
    exact ((housed_create registry defaults batchSize inventory).run h).tenants.feeds f hf
  · intro s segment reservations hdown hne
    refine ⟨?_, ?_, ?_⟩
    · intro look hlook hsearch hres
      exact Services.handle_listing (hlook.route hne (Route.ofSegments?_listing hsearch)) hres
    · intro get hget
      have hroute := hget.route hne (Route.ofSegments?_calendars segment).1
      rw [Services.handle_calendars hroute hdown]
      refine Services.follows_of_inHouseListing hdown ?_ ?_ reservations
      · intro m n h
        exact Response.listing_of_ofFeeds (Action.respond.inj h)
      · intro n e h
        exact Response.ofFeeds_ne_ofError _ _ e (Action.respond.inj h)
    · intro put urls hput hurls hweb
      constructor
      · have hroute := hput.route hne (Route.ofSegments?_calendars segment).2
        rw [Services.handle_setCalendars hroute hurls]
        refine Services.follows_of_inHouseListing hdown ?_ ?_ reservations
        · intro m n h
          exact (Action.setFeeds.inj h).1
        · intro n e h
          cases h
      · intro n
        have hfind : urls.find? (!Calendar.isWebUrl ·) = none :=
          List.find?_eq_none.mpr fun u hu => by simp [hweb u hu]
        simp only [Sync.Request.check, Calendar.checkUrls, hfind]
  · intro s id x h
    rw [Services.inHouseListing_eq] at h
    split at h
    · cases h
    · cases hl : s.inHouse.load id <;> rw [hl] at h <;> cases h

def lodge : Services where
  registry := noPartners
  inHouse :=
    { inventory := Inventory.empty.insert
        { id := 7
          about :=
            { title := "Lodge", description := none, address := none, lat := none, lng := none
              maxGuests := 2, minimumNights := 1, pricePerNight := none, currency := none
              isActive := true } }
      calendars := .empty
      down := []
      defaults := ⟨0, .kilometres⟩
      geocoder := fun _ => .ok none }
  partner := fun _ i => .error (.notFound i.id)

/-- The number is spelt with a blank, a plus sign and zeros. -/
def askLodge : Request :=
  { method := "GET", target := "/api/listings/%20%2B007/calendars", contentType := none, body := "" }

theorem calendars_of_lodge :
    lodge.ShowsRecord " +007" false 7 ∧ (lodge.handle askLodge).1 = .respond (.ofFeeds 7 []) := by
  have hasked : askLodge.Below "GET" " %2B007".toList ["calendars".toList] :=
    ⟨rfl, by decide +kernel⟩
  have hid : Request.decodeSegment " %2B007".toList = " +007" := by decide +kernel
  have hlisting : (lodge.inHouseListing " +007").1.toOption = some 7 := by decide +kernel
  have hshows : lodge.ShowsRecord " +007" false 7 := by
    refine (Services.showsRecord_iff rfl false).mpr ?_
    cases h : (lodge.inHouseListing " +007").1 with
    | error e =>
      rw [h] at hlisting
      cases hlisting
    | ok n =>
      rw [h] at hlisting
      rw [Option.some.inj hlisting]
  obtain ⟨-, hfollows, -⟩ := calendars_of_listings
  obtain ⟨-, hget, -⟩ := hfollows lodge " %2B007".toList false rfl (by decide)
  exact ⟨hshows, ((hget askLodge hasked).acts 7).mpr (hid ▸ hshows)⟩

end Lodging.Web.Site
