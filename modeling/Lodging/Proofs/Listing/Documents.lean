import Lodging.Listing.Basic
import Lodging.Listing.Query
import Lodging.Proofs.Day.Dates
import Lodging.Proofs.Json.Fields
import Mathlib.Data.List.ReduceOption

/-! # Listings, records and searches read back

A value is written to a document as its type says, and read from it by the same type's reader. Floats have
to be finite, and numbers to fit the types that they are read as. Then the value is read from its document;
and from the text of the document if every float of the value is read from its own text. -/

namespace Lodging

open Json (Restores Legible ReadsBack)

theorem forall_mem_reduceOption {α : Type} {P : α → Prop} {l : List (Option α)} :
    (∀ x ∈ l.reduceOption, P x) ↔ ∀ o ∈ l, ∀ x ∈ o, P x := by
  simp only [List.reduceOption_mem_iff]
  constructor
  · intro h o ho x hx
    obtain rfl : o = some x := hx
    exact h x ho
  · exact fun h x hx => h (some x) hx x rfl

namespace Geo

/-! ## Locations -/

def Coordinates.floats (c : Coordinates) : List Float := [c.lat, c.lng, c.radius].reduceOption

def Bounds.floats (b : Bounds) : List Float := [b.north, b.south, b.east, b.west].reduceOption

def LocationQuery.floats (q : LocationQuery) : List Float :=
  q.coordinates.toList.flatMap Coordinates.floats ++ q.bounds.toList.flatMap Bounds.floats

theorem Measurement.restores (m : Measurement) : Restores toJson ofJson? m :=
  ⟨m.ofName?_name, nofun⟩

theorem Coordinates.restores {c : Coordinates} (h : ∀ x ∈ c.floats, x.isFinite = true) :
    Restores toJson ofJson? c := by
  obtain ⟨f, hfields, hget, -⟩ := Json.exists_fields ["lat", "lng", "radius", "measurement"]
    (j := c.toJson) rfl rfl (by decide)
  simp only [floats, forall_mem_reduceOption, List.forall_mem_cons] at h hget
  obtain ⟨hlat, hlng, hradius, hmeasurement, -⟩ := hget
  have hlat := Json.Fields.optional_float hlat h.1
  have hlng := Json.Fields.optional_float hlng h.2.1
  have hradius := Json.Fields.optional_float hradius h.2.2.1
  have hmeasurement := Json.Fields.optional_of hmeasurement fun m _ => m.restores
  refine ⟨?_, nofun⟩
  simp only [ofJson?, hfields, hlat, hlng, hradius, hmeasurement, Option.bind_eq_bind, Option.bind_some]
  rfl

theorem Bounds.restores {b : Bounds} (h : ∀ x ∈ b.floats, x.isFinite = true) :
    Restores toJson ofJson? b := by
  obtain ⟨f, hfields, hget, -⟩ := Json.exists_fields ["north", "south", "east", "west"]
    (j := b.toJson) rfl rfl (by decide)
  simp only [floats, forall_mem_reduceOption, List.forall_mem_cons] at h hget
  obtain ⟨hnorth, hsouth, heast, hwest, -⟩ := hget
  have hnorth := Json.Fields.optional_float hnorth h.1
  have hsouth := Json.Fields.optional_float hsouth h.2.1
  have heast := Json.Fields.optional_float heast h.2.2.1
  have hwest := Json.Fields.optional_float hwest h.2.2.2.1
  refine ⟨?_, nofun⟩
  simp only [ofJson?, hfields, hnorth, hsouth, heast, hwest, Option.bind_eq_bind, Option.bind_some]
  rfl

theorem LocationQuery.restores {q : LocationQuery} (h : ∀ x ∈ q.floats, x.isFinite = true) :
    Restores toJson ofJson? q := by
  obtain ⟨f, hfields, hget, -⟩ := Json.exists_fields ["coordinates", "bounds", "location_query"]
    (j := q.toJson) rfl rfl (by decide)
  simp only [floats, List.forall_mem_append, List.forall_mem_flatMap, Option.mem_toList,
    List.forall_mem_cons] at h hget
  obtain ⟨hcoordinates, hbounds, htext, -⟩ := hget
  have hcoordinates := Json.Fields.optional_of hcoordinates fun c hc => Coordinates.restores (h.1 c hc)
  have hbounds := Json.Fields.optional_of hbounds fun b hb => Bounds.restores (h.2 b hb)
  have htext := Json.Fields.optional_str htext
  refine ⟨?_, nofun⟩
  simp only [ofJson?, hfields, hcoordinates, hbounds, htext, Option.bind_eq_bind, Option.bind_some]
  rfl

theorem Coordinates.legible {c : Coordinates} (h : ∀ x ∈ c.floats, ReadsBack x) : Legible c.toJson := by
  simp only [floats, forall_mem_reduceOption, List.forall_mem_cons] at h
  refine .obj ?_
  simp only [List.forall_mem_cons]
  exact ⟨Json.legible_ofOption_float h.1, Json.legible_ofOption_float h.2.1,
    Json.legible_ofOption_float h.2.2.1, Json.legible_ofOption fun m _ => .str m.name,
    List.forall_mem_nil _⟩

theorem Bounds.legible {b : Bounds} (h : ∀ x ∈ b.floats, ReadsBack x) : Legible b.toJson := by
  simp only [floats, forall_mem_reduceOption, List.forall_mem_cons] at h
  refine .obj ?_
  simp only [List.forall_mem_cons]
  exact ⟨Json.legible_ofOption_float h.1, Json.legible_ofOption_float h.2.1,
    Json.legible_ofOption_float h.2.2.1, Json.legible_ofOption_float h.2.2.2.1, List.forall_mem_nil _⟩

theorem LocationQuery.legible {q : LocationQuery} (h : ∀ x ∈ q.floats, ReadsBack x) :
    Legible q.toJson := by
  simp only [floats, List.forall_mem_append, List.forall_mem_flatMap, Option.mem_toList] at h
  refine .obj ?_
  simp only [List.forall_mem_cons]
  exact ⟨Json.legible_ofOption fun c hc => Coordinates.legible (h.1 c hc),
    Json.legible_ofOption fun b hb => Bounds.legible (h.2 b hb),
    Json.legible_ofOption_str _, List.forall_mem_nil _⟩

end Geo

/-! ## Searches -/

theorem Day.restores (d : Day) : Restores toJson ofJson? d := ⟨d.ofJson?_toJson, nofun⟩

def Query.floats (q : Query) : List Float := q.location.floats

def Query.InBounds (q : Query) : Prop := ∀ n ∈ q.guests, Decimal.word32.contains (n : Int) = true

theorem Query.restores {q : Query} (h : ∀ x ∈ q.floats, x.isFinite = true) (hbounds : q.InBounds) :
    Restores toJson ofJson? q := by
  obtain ⟨f, hfields, hget, -⟩ := Json.exists_fields
    ["location", "check_in_date", "check_out_date", "number_of_guests"] (j := q.toJson) rfl rfl (by decide)
  simp only [List.forall_mem_cons] at hget
  obtain ⟨hlocation, hin, hout, hguests, -⟩ := hget
  have hlocation := Json.Fields.required_of hlocation (Geo.LocationQuery.restores h)
  have hin := Json.Fields.optional_of hin fun d _ => d.restores
  have hout := Json.Fields.optional_of hout fun d _ => d.restores
  have hwhole : Json.ofOption Json.ofNat q.guests = Json.ofOption .whole (q.guests.map Int.ofNat) := by
    cases q.guests <;> rfl
  have hguests : f.optional "number_of_guests" (Json.whole? Decimal.word32) =
      some (q.guests.map Int.ofNat) := by
    rw [hwhole] at hguests
    refine Json.Fields.optional_of hguests fun i hi => ?_
    obtain ⟨n, hn, rfl⟩ := Option.map_eq_some_iff.mp hi
    exact Json.restores_whole (hbounds n hn)
  have hnat : (q.guests.map Int.ofNat).map Int.toNat = q.guests := by
    cases q.guests <;> rfl
  refine ⟨?_, nofun⟩
  simp only [ofJson?, hfields, hlocation, hin, hout, hguests, hnat, Option.bind_eq_bind, Option.bind_some]
  rfl

theorem Query.legible {q : Query} (h : ∀ x ∈ q.floats, ReadsBack x) (hbounds : q.InBounds) :
    Legible q.toJson := by
  refine .obj ?_
  simp only [List.forall_mem_cons]
  exact ⟨Geo.LocationQuery.legible h, Json.legible_ofOption fun d _ => .str d.text,
    Json.legible_ofOption fun d _ => .str d.text,
    Json.legible_ofOption fun n hn => Json.legible_whole (hbounds n hn) (by decide),
    List.forall_mem_nil _⟩

/-! ## Listings and records -/

theorem Period.restores (p : Period) : Restores toJson ofJson? p := by
  obtain ⟨f, hfields, hget, -⟩ := Json.exists_fields ["start", "end"] (j := p.toJson) rfl rfl (by decide)
  simp only [List.forall_mem_cons] at hget
  obtain ⟨hstart, hstop, -⟩ := hget
  have hstart := Json.Fields.required_of hstart p.start.restores
  have hstop := Json.Fields.required_of hstop p.stop.restores
  refine ⟨?_, nofun⟩
  simp only [ofJson?, hfields, hstart, hstop, Option.bind_eq_bind, Option.bind_some]
  rfl

theorem Period.legible (p : Period) : Legible p.toJson := by
  refine .obj ?_
  simp only [List.forall_mem_cons]
  exact ⟨.str p.start.text, .str p.stop.text, List.forall_mem_nil _⟩

def Description.floats (d : Description) : List Float := [d.lat, d.lng, d.pricePerNight].reduceOption

def Description.InBounds (d : Description) : Prop :=
  Decimal.int32.contains d.maxGuests = true ∧ Decimal.int32.contains d.minimumNights = true

theorem Description.ofFields?_of {d : Description} {f : Json.Fields}
    (hget : ∀ m ∈ d.members, f.get? m.1 = some m.2) (h : ∀ x ∈ d.floats, x.isFinite = true)
    (hbounds : d.InBounds) : ofFields? f = some d := by
  simp only [floats, forall_mem_reduceOption, members, List.forall_mem_cons] at h hget
  obtain ⟨htitle, hdescription, haddress, hlat, hlng, hguests, hnights, hprice, hcurrency, hactive, -⟩ :=
    hget
  have htitle := Json.Fields.required_of htitle (Json.restores_str d.title)
  have hdescription := Json.Fields.optional_str hdescription
  have haddress := Json.Fields.optional_str haddress
  have hlat := Json.Fields.optional_float hlat h.1
  have hlng := Json.Fields.optional_float hlng h.2.1
  have hguests := Json.Fields.required_of hguests (Json.restores_whole hbounds.1)
  have hnights := Json.Fields.required_of hnights (Json.restores_whole hbounds.2)
  have hprice := Json.Fields.optional_float hprice h.2.2.1
  have hcurrency := Json.Fields.optional_str hcurrency
  have hactive := Json.Fields.required_of hactive (Json.restores_bool d.isActive)
  simp only [ofFields?, htitle, hdescription, haddress, hlat, hlng, hguests, hnights, hprice, hcurrency,
    hactive, Option.bind_eq_bind, Option.bind_some]
  rfl

theorem Description.legible {d : Description} (h : ∀ x ∈ d.floats, ReadsBack x) (hbounds : d.InBounds) :
    ∀ m ∈ d.members, Legible m.2 := by
  simp only [floats, forall_mem_reduceOption, List.forall_mem_cons] at h
  simp only [members, List.forall_mem_cons]
  exact ⟨.str d.title, Json.legible_ofOption_str _, Json.legible_ofOption_str _,
    Json.legible_ofOption_float h.1, Json.legible_ofOption_float h.2.1,
    Json.legible_whole hbounds.1 (by decide),
    Json.legible_whole hbounds.2 (by decide), Json.legible_ofOption_float h.2.2.1,
    Json.legible_ofOption_str _, .bool d.isActive, List.forall_mem_nil _⟩

namespace Listing

def floats (l : Listing) : List Float := l.about.floats

def members (l : Listing) : List (String × Json) :=
  [("id", .str l.id), ("provider", .str l.provider)] ++ l.about.members

theorem toJson_of_nil {l : Listing} (h : l.reservations = []) : l.toJson = .obj l.members := by
  simp [toJson, members, h]

theorem toJson_of_ne_nil {l : Listing} (h : l.reservations ≠ []) :
    l.toJson = .obj (l.members ++ [("reservations", .ofList Period.toJson l.reservations)]) := by
  simp [toJson, members, h]

/-- Reservations are left out where there are none. -/
theorem member?_reservations (l : Listing) :
    (l.toJson.member? "reservations").isSome ↔ l.reservations ≠ [] := by
  by_cases h : l.reservations = []
  · rw [toJson_of_nil h]
    simp [h, Json.member?, members, Description.members]
  · rw [toJson_of_ne_nil h]
    simp [h, Json.member?]

theorem exists_fields (l : Listing) : ∃ f, (∀ names, l.toJson.fields? names = some f) ∧
    (∀ m ∈ l.members, f.get? m.1 = some m.2) ∧
    f.orElse "reservations" [] (Json.list? Period.ofJson?) = some l.reservations := by
  by_cases h : l.reservations = []
  · obtain ⟨f, hfields, hget, hnone⟩ := Json.exists_fields (["id", "provider"] ++ Description.names)
      (toJson_of_nil h) rfl (by decide)
    refine ⟨f, hfields, hget, ?_⟩
    rw [Json.Fields.orElse, hnone _ (by decide), h]
  · obtain ⟨f, hfields, hget, -⟩ := Json.exists_fields
      (["id", "provider"] ++ Description.names ++ ["reservations"]) (toJson_of_ne_nil h) rfl (by decide)
    obtain ⟨hget, hlast⟩ := List.forall_mem_append.mp hget
    refine ⟨f, hfields, hget, ?_⟩
    rw [Json.Fields.orElse, hlast _ List.mem_cons_self]
    exact Json.list?_ofList fun p _ => p.restores

theorem restores {l : Listing} (h : ∀ x ∈ l.floats, x.isFinite = true) (hbounds : l.about.InBounds) :
    Restores toJson ofJson? l := by
  obtain ⟨f, hfields, hget, hreservations⟩ := l.exists_fields
  simp only [members, List.forall_mem_append, List.forall_mem_cons] at hget
  obtain ⟨⟨hid, hprovider, -⟩, habout⟩ := hget
  have hid := Json.Fields.required_of hid (Json.restores_str l.id)
  have hprovider := Json.Fields.required_of hprovider (Json.restores_str l.provider)
  have habout := Description.ofFields?_of habout h hbounds
  refine ⟨?_, nofun⟩
  simp only [ofJson?, hfields, hid, hprovider, habout, hreservations, Option.bind_eq_bind, Option.bind_some]
  rfl

theorem legible {l : Listing} (h : ∀ x ∈ l.floats, ReadsBack x) (hbounds : l.about.InBounds) :
    Legible l.toJson := by
  have hmembers : ∀ m ∈ l.members, Legible m.2 := by
    simp only [members, List.forall_mem_append, List.forall_mem_cons]
    exact ⟨⟨.str l.id, .str l.provider, List.forall_mem_nil _⟩, Description.legible h hbounds⟩
  by_cases hempty : l.reservations = []
  · rw [toJson_of_nil hempty]
    exact .obj hmembers
  · rw [toJson_of_ne_nil hempty]
    refine .obj (List.forall_mem_append.mpr ⟨hmembers, ?_⟩)
    exact List.forall_mem_singleton.mpr (Json.legible_ofList fun p _ => p.legible)

end Listing

namespace Record

def floats (r : Record) : List Float := r.about.floats

def InBounds (r : Record) : Prop := Decimal.int64.contains r.id = true ∧ r.about.InBounds

theorem restores {r : Record} (h : ∀ x ∈ r.floats, x.isFinite = true) (hbounds : r.InBounds) :
    Restores toJson ofJson? r := by
  obtain ⟨f, hfields, hget, -⟩ := Json.exists_fields ("id" :: Description.names) (j := r.toJson) rfl rfl
    (by decide)
  simp only [List.forall_mem_cons] at hget
  obtain ⟨hid, habout⟩ := hget
  have hid := Json.Fields.required_of hid (Json.restores_whole hbounds.1)
  have habout := Description.ofFields?_of habout h hbounds.2
  refine ⟨?_, nofun⟩
  simp only [ofJson?, hfields, hid, habout, Option.bind_eq_bind, Option.bind_some]
  rfl

theorem legible {r : Record} (h : ∀ x ∈ r.floats, ReadsBack x) (hbounds : r.InBounds) :
    Legible r.toJson :=
  .obj (List.forall_mem_cons.mpr
    ⟨Json.legible_whole hbounds.1 (by decide), Description.legible h hbounds.2⟩)

end Record

/-- Locations, searches, listings and records are read back from what is written for them, if their floats are
finite. Only the reservations of a listing are left out, where there are none. -/
theorem documents_give_back :
    (∀ q : Geo.LocationQuery, (∀ x ∈ q.floats, x.isFinite = true) →
      Json.GivesBack Geo.LocationQuery.toJson Geo.LocationQuery.ofJson? q.floats q) ∧
    (∀ q : Query, (∀ x ∈ q.floats, x.isFinite = true) → q.InBounds →
      Json.GivesBack Query.toJson Query.ofJson? q.floats q) ∧
    (∀ l : Listing, (∀ x ∈ l.floats, x.isFinite = true) → l.about.InBounds →
      Json.GivesBack Listing.toJson Listing.ofJson? l.floats l ∧
        ((l.toJson.member? "reservations").isSome ↔ l.reservations ≠ [])) ∧
    ∀ r : Record, (∀ x ∈ r.floats, x.isFinite = true) → r.InBounds →
      Json.GivesBack Record.toJson Record.ofJson? r.floats r := by
  refine ⟨fun q h => ?_, fun q h hbounds => ?_, fun l h hbounds => ⟨?_, l.member?_reservations⟩,
    fun r h hbounds => ?_⟩
  · exact (Geo.LocationQuery.restores h).givesBack Geo.LocationQuery.legible
  · exact (Query.restores h hbounds).givesBack fun hfloats => Query.legible hfloats hbounds
  · exact (Listing.restores h hbounds).givesBack fun hfloats => Listing.legible hfloats hbounds
  · exact (Record.restores h hbounds).givesBack fun hfloats => Record.legible hfloats hbounds

/-- A search around a point, from a day of this era to one in a year with a sign. -/
def lakeSearch : Query :=
  { location := ⟨some ⟨some 39.17, some (-79.5), none, some .miles⟩,
      some ⟨some 40, none, none, some 0.1⟩, some "Lac \"d'Oô\"\n"⟩
    checkIn := Day.ofCivil? ⟨2025, 7, 1⟩
    checkOut := Day.ofCivil? ⟨12025, 12, 31⟩
    guests := some 4 }

theorem inRange_highest : Day.lowest ≤ Day.highest ∧ Day.highest ≤ Day.highest := by decide

/-- A listing with one busy period, from the first day of all to the last. -/
def lakeCabin : Listing :=
  { id := "7"
    provider := "beenest"
    about := ⟨"Cabin", none, some "Lac d'Oô", some 39.17, some (-79.5), 4, -1, some 120.25, none, true⟩
    reservations := [⟨⟨Day.lowest, by decide⟩, ⟨Day.highest, inRange_highest⟩⟩] }

theorem documents_give_back_lake :
    (∀ x ∈ lakeSearch.floats ++ lakeCabin.floats, x.isFinite = true ∧ ReadsBack x) ∧
    (Json.read? (Json.render lakeSearch.location.toJson)).bind Geo.LocationQuery.ofJson? =
      some lakeSearch.location ∧
    (Json.read? (Json.render lakeSearch.toJson)).bind Query.ofJson? = some lakeSearch ∧
    (Json.read? (Json.render lakeCabin.toJson)).bind Listing.ofJson? = some lakeCabin ∧
    (Json.read? (Json.render (Record.toJson ⟨7, lakeCabin.about⟩))).bind Record.ofJson? =
      some ⟨7, lakeCabin.about⟩ := by
  obtain ⟨hplace, hsearch, hlisting, hrecord⟩ := documents_give_back
  have hreads : ∀ x ∈ lakeSearch.floats ++ lakeCabin.floats, ReadsBack x := by
    have hvalues : lakeSearch.floats ++ lakeCabin.floats =
        [39.17, -79.5, 40, 0.1, 39.17, -79.5, 120.25] := rfl
    rw [hvalues]
    simp only [List.forall_mem_cons]
    refine ⟨?_, ?_, ?_, ?_, ?_, ?_, ?_, List.forall_mem_nil _⟩
    all_goals exact Json.readsBack_of_numeral (by decide +kernel)
  have hfinite : ∀ x ∈ lakeSearch.floats ++ lakeCabin.floats, x.isFinite = true := by decide
  have hguests : lakeSearch.InBounds := by
    intro n hn
    obtain rfl := Option.some.inj hn
    decide
  have habout : lakeCabin.about.InBounds := by constructor <;> decide
  obtain ⟨hsearchReads, hcabinReads⟩ := List.forall_mem_append.mp hreads
  obtain ⟨hsearchFinite, hcabinFinite⟩ := List.forall_mem_append.mp hfinite
  refine ⟨fun x hx => ⟨hfinite x hx, hreads x hx⟩, (hplace _ hsearchFinite).text hsearchReads,
    (hsearch _ hsearchFinite hguests).text hsearchReads,
    (hlisting _ hcabinFinite habout).1.text hcabinReads,
    (hrecord ⟨7, lakeCabin.about⟩ hcabinFinite ⟨by decide, habout⟩).text hcabinReads⟩

end Lodging
