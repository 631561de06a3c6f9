import Lodging.Proofs.Geo.Sources
import Lodging.Proofs.Remote.SearchParams
import Lodging.Web.Site

/-!
# Numbers that cannot be used

A number of the location that is no finite number may as well be left out of the query. It takes its
parameter away, and with the last parameter of a centre or an area the centre or the area itself; but
what is read from such a centre or area is nothing in either case. So the two searches differ as data,
and not in the point, box, radius and text that are used: they are resolved alike, ask the geocoder for
the same addresses, and partners are told the same of them.
-/

namespace Lodging.Web

def locationNumbers : List String := ["lat", "lng", "radius", "north", "south", "east", "west"]

/-- Without blanks at its ends the text is no finite number. -/
def Unusable (s : String) : Prop :=
  ∀ x, Decimal.float? (Text.trim s.toList) = some x → x.isFinite = false

/-- Some numbers that cannot be used are left out of the pairs of a query. -/
inductive Dropped : List (String × String) → List (String × String) → Prop
  | nil : Dropped [] []
  | keep {ps ps' : List (String × String)} (p : String × String) (rest : Dropped ps ps') :
    Dropped (p :: ps) (p :: ps')
  | drop {ps ps' : List (String × String)} {name value : String} (number : name ∈ locationNumbers)
    (unusable : Unusable value) (rest : Dropped ps ps') : Dropped ((name, value) :: ps) ps'

/-! ## Reading what is left -/

theorem number_eq_none {s : String} (h : Unusable s) : SearchParams.number (some s) = none := by
  rw [SearchParams.number, Option.bind_some]
  cases hx : Decimal.float? (Text.trim s.toList) with
  | none => rfl
  | some x => rw [Option.filter_some_neg (by simpa using h x hx)]

/-- Parameters of which some have lost a number that cannot be used. -/
def Fewer (ps ps' : Params) : Prop :=
  ∀ name, ps'.lookup name = ps.lookup name ∨
    (name ∈ locationNumbers ∧ ps'.lookup name = none ∧ ∃ s, ps.lookup name = some (.text s) ∧ Unusable s)

theorem lookup_number {name : String} (h : name ∈ locationNumbers) :
    SearchParams.schema.lookup name = some .text := by
  simp only [locationNumbers, List.mem_cons, List.not_mem_nil, or_false] at h
  rcases h with rfl | rfl | rfl | rfl | rfl | rfl | rfl <;> decide

/-- What adding a pair comes to. -/
theorem add_eq_ok {schema : Schema} {ps out : Params} {p : String × String}
    (h : Params.add schema ps p = .ok out) :
    (schema.lookup p.1 = none ∧ out = ps) ∨
      ∃ k v, schema.lookup p.1 = some k ∧ ps.lookup p.1 = none ∧ k.read p.2 = .ok v ∧
        out = ps ++ [(p.1, v)] := by
  unfold Params.add at h
  split at h
  · next hk => exact .inl ⟨hk, (Except.ok.inj h).symm⟩
  · next k hk =>
    split at h
    · cases h
    · next hnew =>
      cases hv : k.read p.2 with
      | error e =>
        rw [hv] at h
        cases h
      | ok v =>
        rw [hv] at h
        exact .inr ⟨k, v, hk, Option.not_isSome_iff_eq_none.mp hnew, hv, (Except.ok.inj h).symm⟩

theorem Fewer.lookup_eq_none {ps ps' : Params} (h : Fewer ps ps') {name : String}
    (hnone : ps.lookup name = none) : ps'.lookup name = none := by
  rcases h name with heq | ⟨-, hnone', -⟩
  · rw [heq, hnone]
  · exact hnone'

theorem Fewer.keep {ps ps' : Params} (h : Fewer ps ps') {name : String}
    (hnone : ps.lookup name = none) (v : Value) :
    Fewer (ps ++ [(name, v)]) (ps' ++ [(name, v)]) := by
  intro other
  simp only [List.lookup_append]
  rcases h other with heq | ⟨hnumber, hnone', s, hs, hunusable⟩
  · exact .inl (by rw [heq])
  · have hne : other ≠ name := by
      rintro rfl
      rw [hnone] at hs
      cases hs
    refine .inr ⟨hnumber, ?_, s, by rw [hs]; rfl, hunusable⟩
    simp [hnone', List.lookup_cons, beq_false_of_ne hne]

theorem Fewer.drop {ps ps' : Params} (h : Fewer ps ps') {name s : String} (hnumber : name ∈ locationNumbers)
    (hnone : ps.lookup name = none) (hunusable : Unusable s) :
    Fewer (ps ++ [(name, .text s)]) ps' := by
  intro other
  simp only [List.lookup_append]
  by_cases hname : other = name
  · subst hname
    exact .inr ⟨hnumber, h.lookup_eq_none hnone, s, by simp [hnone], hunusable⟩
  · rcases h other with heq | ⟨hnumber', hnone', s', hs', hunusable'⟩
    · exact .inl (by simp [heq, List.lookup_cons, beq_false_of_ne hname])
    · exact .inr ⟨hnumber', hnone', s', by rw [hs']; rfl, hunusable'⟩

/-- With fewer pairs the rest is still read as it was. -/
theorem Dropped.foldlM {pairs pairs' : List (String × String)} (hd : Dropped pairs pairs') :
    ∀ {ps ps' out : Params}, Fewer ps ps' →
      pairs.foldlM (Params.add SearchParams.schema) ps = .ok out →
      ∃ out', pairs'.foldlM (Params.add SearchParams.schema) ps' = .ok out' ∧ Fewer out out' := by
  induction hd with
  | nil =>
    intro ps ps' out hf h
    rw [← Except.ok.inj h]
    exact ⟨ps', rfl, hf⟩
  | @keep pairs pairs' p _ ih =>
    intro ps ps' out hf h
    rw [List.foldlM_cons] at h ⊢
    cases hadd : Params.add SearchParams.schema ps p with
    | error e =>
      rw [hadd] at h
      cases h
    | ok mid =>
      rw [hadd] at h
      rcases add_eq_ok hadd with ⟨hk, rfl⟩ | ⟨k, v, hk, hnone, hv, rfl⟩
      · rw [Params.add, hk]
        exact ih hf h
      · rw [Params.add, hk]
        simp only [hf.lookup_eq_none hnone, Option.isSome_none, Bool.false_eq_true, if_false, hv]
        exact ih (hf.keep hnone v) h
  | drop hnumber hunusable _ ih =>
    intro ps ps' out hf h
    rw [List.foldlM_cons] at h
    cases hadd : Params.add SearchParams.schema ps (_, _) with
    | error e =>
      rw [hadd] at h
      cases h
    | ok mid =>
      rw [hadd] at h
      rcases add_eq_ok hadd with ⟨hk, -⟩ | ⟨k, v, hk, hnone, hv, rfl⟩
      · rw [lookup_number hnumber] at hk
        cases hk
      · rw [lookup_number hnumber] at hk
        cases hk
        cases hv
        exact ih (hf.drop hnumber hnone hunusable) h

/-! ## Searches that are as good as the same -/

namespace SearchParams

/-- The same parameters but for numbers of the location, which come to the same. -/
structure Alike (p p' : SearchParams) : Prop where
  lat : number p'.lat = number p.lat
  lng : number p'.lng = number p.lng
  radius : number p'.radius = number p.radius
  north : number p'.north = number p.north
  south : number p'.south = number p.south
  east : number p'.east = number p.east
  west : number p'.west = number p.west
  measurement : p'.measurement = p.measurement
  locationQuery : p'.locationQuery = p.locationQuery
  checkIn : p'.checkIn = p.checkIn
  checkOut : p'.checkOut = p.checkOut
  guests : p'.guests = p.guests

end SearchParams

theorem Fewer.number_text? {ps ps' : Params} (h : Fewer ps ps') (name : String) :
    SearchParams.number (ps'.text? name) = SearchParams.number (ps.text? name) := by
  unfold Params.text?
  rcases h name with heq | ⟨-, hnone, s, hs, hunusable⟩
  · rw [heq]
  · rw [hnone, hs]
    exact (number_eq_none hunusable).symm

theorem Fewer.lookup_eq {ps ps' : Params} (h : Fewer ps ps') {name : String}
    (hname : name ∉ locationNumbers) : ps'.lookup name = ps.lookup name :=
  (h name).resolve_right fun hn => hname hn.1

theorem Dropped.read {query query' : List Char} {p : SearchParams}
    (hd : Dropped (Http.Form.read query) (Http.Form.read query'))
    (h : SearchParams.read query = .ok p) :
    ∃ p', SearchParams.read query' = .ok p' ∧ p.Alike p' := by
  unfold SearchParams.read Params.read at h ⊢
  cases hout : (Http.Form.read query).foldlM (Params.add SearchParams.schema) [] with
  | error e =>
    rw [hout] at h
    cases h
  | ok out =>
    rw [hout] at h
    obtain ⟨out', hout', hf⟩ := hd.foldlM (fun _ => .inl rfl) hout
    rw [hout', ← Except.ok.inj h]
    refine ⟨_, rfl, ?_⟩
    constructor
    case measurement | locationQuery =>
      simp only [Params.text?]
      rw [hf.lookup_eq (by decide)]
    case checkIn | checkOut =>
      simp only [Params.day?]
      rw [hf.lookup_eq (by decide)]
    case guests =>
      simp only [Params.whole?]
      rw [hf.lookup_eq (by decide)]
    all_goals exact hf.number_text? _

/-! ## What is used of a search -/

namespace SearchParams

variable {p p' : SearchParams}

/-- A centre that is not given has no coordinates either. -/
theorem point?_toQuery (p : SearchParams) : p.toQuery.location.point? =
    (⟨number p.lat, number p.lng, number p.radius, p.measurement.bind unit?⟩ :
      Geo.Coordinates).point? := by
  show p.coordinates?.bind Geo.Coordinates.point? = _
  unfold coordinates?
  split
  · rfl
  · next h =>
    simp only [Bool.or_eq_true, Option.isSome_iff_ne_none, ne_eq, not_or, not_not] at h
    rw [h.1]
    rfl

theorem box?_toQuery (p : SearchParams) : p.toQuery.location.box? =
    (⟨number p.north, number p.south, number p.east, number p.west⟩ : Geo.Bounds).box? := by
  show p.bounds?.bind Geo.Bounds.box? = _
  unfold bounds?
  split
  · rfl
  · next h =>
    simp only [Bool.or_eq_true, Option.isSome_iff_ne_none, ne_eq, not_or, not_not] at h
    rw [h.1.1.1]
    rfl

/-- Where a centre can be used, it was given. -/
theorem coordinates_toQuery {c : Geo.Point Float} (h : p.toQuery.location.point? = some c) :
    p.toQuery.location.coordinates =
      some ⟨number p.lat, number p.lng, number p.radius, p.measurement.bind unit?⟩ := by
  obtain ⟨k, hk, -⟩ := Option.bind_eq_some_iff.mp h
  have hcentre : p.coordinates? = some k := hk
  show p.coordinates? = _
  unfold coordinates? at hcentre ⊢
  split at hcentre
  · next hgiven => rw [if_pos hgiven]
  · cases hcentre

theorem Alike.point? (h : p.Alike p') : p'.toQuery.location.point? = p.toQuery.location.point? := by
  rw [point?_toQuery, point?_toQuery, h.lat, h.lng, h.radius, h.measurement]

theorem Alike.box? (h : p.Alike p') : p'.toQuery.location.box? = p.toQuery.location.box? := by
  rw [box?_toQuery, box?_toQuery, h.north, h.south, h.east, h.west]

theorem Alike.coordinates (h : p.Alike p') {c : Geo.Point Float}
    (hc : p.toQuery.location.point? = some c) :
    p'.toQuery.location.coordinates = p.toQuery.location.coordinates := by
  rw [coordinates_toQuery hc, coordinates_toQuery (h.point?.trans hc), h.lat, h.lng, h.radius,
    h.measurement]

theorem Alike.centre? (h : p.Alike p') :
    p'.toQuery.location.centre? = p.toQuery.location.centre? := by
  have hnone : ∀ q : Geo.LocationQuery, q.point? = none → q.centre? = none := by
    intro q hq
    cases hc : q.coordinates with
    | none => rw [Geo.LocationQuery.centre?, hc]; rfl
    | some c => rw [Geo.LocationQuery.centre?_eq hc, hq]; rfl
  cases hp : p.toQuery.location.point? with
  | none => rw [hnone _ hp, hnone _ (h.point?.trans hp)]
  | some c => rw [Geo.LocationQuery.centre?, h.coordinates hp, Geo.LocationQuery.centre?]

theorem Alike.address? (h : p.Alike p') :
    p'.toQuery.location.address? = p.toQuery.location.address? := by
  show (p'.locationQuery.map Text.trimmed).filter (· ≠ "") = _
  rw [h.locationQuery]
  rfl

theorem Alike.resolve (h : p.Alike p') (d : Geo.Defaults) (geocoder : Geo.Geocoder) :
    p'.toQuery.location.resolve d geocoder = p.toQuery.location.resolve d geocoder :=
  Geo.LocationQuery.resolve_congr h.box? h.point? (fun _ => h.centre?) h.address? d geocoder

theorem Alike.search (h : p.Alike p') (provider : Listing.InHouse) :
    provider.search p'.toQuery = provider.search p.toQuery := by
  have hparty : p'.toQuery.partySize = p.toQuery.partySize := congrArg (·.getD 1) h.guests
  have hnights : p'.toQuery.nights? = p.toQuery.nights? := by
    simp only [Query.nights?, toQuery, h.checkIn, h.checkOut]
  have hwindow : p'.toQuery.window? = p.toQuery.window? := by
    simp only [Query.window?, toQuery, h.checkIn, h.checkOut]
  simp only [Listing.InHouse.search, Listing.InHouse.searchResolved, Listing.InHouse.filterOf,
    h.resolve, hparty, hnights, hwindow]

/-- Partners are told the same. -/
theorem Alike.searchParams (h : p.Alike p') :
    Remote.PartnerApi.searchParams p'.toQuery = Remote.PartnerApi.searchParams p.toQuery := by
  have hcentre : Remote.PartnerApi.toldCentre p'.toQuery.location =
      Remote.PartnerApi.toldCentre p.toQuery.location := by
    cases hp : p.toQuery.location.point? with
    | none =>
      rw [Remote.PartnerApi.toldCentre, h.point?.trans hp, Remote.PartnerApi.toldCentre, hp]
      cases p'.toQuery.location.coordinates <;> cases p.toQuery.location.coordinates <;> rfl
    | some c =>
      rw [Remote.PartnerApi.toldCentre, h.coordinates hp, h.point?, Remote.PartnerApi.toldCentre]
  have harea : Remote.PartnerApi.toldArea p'.toQuery.location =
      Remote.PartnerApi.toldArea p.toQuery.location := by
    rw [Remote.PartnerApi.toldArea, h.box?, Remote.PartnerApi.toldArea]
  have hparty : p'.toQuery.partySize = p.toQuery.partySize := congrArg (·.getD 1) h.guests
  have hin : p'.toQuery.checkIn = p.toQuery.checkIn := h.checkIn
  have hout : p'.toQuery.checkOut = p.toQuery.checkOut := h.checkOut
  rw [Remote.PartnerApi.searchParams_eq, Remote.PartnerApi.searchParams_eq]
  simp only [Remote.PartnerApi.fields, hcentre, harea, hparty, h.address?, hin, hout]

theorem Alike.partnerSearch (h : p.Alike p') (api : Remote.PartnerApi) (net : Http.Network) :
    api.search net p'.toQuery = api.search net p.toQuery := by
  simp only [Remote.PartnerApi.search, h.searchParams]

theorem Alike.faults (h : p.Alike p') : p'.faults = p.faults := by
  simp only [SearchParams.faults, h.locationQuery, h.measurement, h.guests]

end SearchParams

theorem Dropped.readSearch {r r' : Request} {q : Query}
    (hd : Dropped (Http.Form.read r.query) (Http.Form.read r'.query)) (h : readSearch r = .ok q) :
    ∃ p p' : SearchParams, p.Alike p' ∧ q = p.toQuery ∧ readSearch r' = .ok p'.toQuery := by
  unfold Web.readSearch at h ⊢
  cases hp : SearchParams.read r.query with
  | error e =>
    rw [hp] at h
    cases h
  | ok p =>
    obtain ⟨p', hp', halike⟩ := hd.read hp
    rw [hp] at h
    rw [hp']
    by_cases hfaults : p.faults.isEmpty = true
    · refine ⟨p, p', halike, ?_, ?_⟩
      · exact (Except.ok.inj (h.symm.trans (if_pos hfaults)))
      · exact if_pos (by rw [halike.faults, hfaults])
    · cases h.symm.trans (if_neg hfaults)

/-! ## Requests -/

/-- Partners over the web, and how long each takes to answer what it was sent, if it ever does. -/
structure Partners where
  api : String → Remote.PartnerApi
  net : Http.Network
  wait? : String → List Http.Request → Option Nat

def Partners.search (ps : Partners) (q : Query) (name : String) :
    Timed.Eventual (Except Listing.Error (List Listing)) :=
  match ps.wait? name ((ps.api name).search ps.net q).2 with
  | some ms => .after ms ((ps.api name).search ps.net q).1
  | none => .never

def Surroundings.withPartners (around : Surroundings) (ps : Partners) (q : Query) : Surroundings :=
  { around with partnerSearch := ps.search q }

theorem progressOf_search {w : Site} {around : Surroundings} {r : Request} {q : Query}
    (hroute : Route.ofRequest? r = some .search) (hq : readSearch r = .ok q) :
    w.progressOf around r = .searching (w.registry.search
      (.after 0 ((w.services around).inHouse.search q).1) around.partnerSearch) := by
  simp only [Site.progressOf, Services.handle, hroute, hq]

/-- A query that is in order stays so when numbers of the location that cannot be used are left out of
it, and nothing that can be seen of the search changes: not the in-house results nor what the geocoder
is asked for, not the answers of partners nor the requests to them, and not the response. What is used
of a location in the first place is settled source by source. -/
theorem unusable_numbers_as_missing :
    (∀ (r r' : Request) (q : Query),
      Route.ofRequest? r = some .search → Route.ofRequest? r' = some .search →
      Dropped (Http.Form.read r.query) (Http.Form.read r'.query) → readSearch r = .ok q →
      ∃ q', readSearch r' = .ok q' ∧
        (∀ provider : Listing.InHouse, provider.search q' = provider.search q) ∧
        (∀ (api : Remote.PartnerApi) (net : Http.Network), api.search net q' = api.search net q) ∧
        ∀ (w : Site) (around : Surroundings) (ps : Partners),
          w.progressOf (around.withPartners ps q') r' = w.progressOf (around.withPartners ps q) r) ∧
    ∀ (d : Geo.Defaults) (l : Geo.LocationQuery), l.Settles d := by
  refine ⟨?_, fun d l => l.settles d⟩
  intro r r' q hroute hroute' hd hq
  obtain ⟨p, p', halike, rfl, hq'⟩ := hd.readSearch hq
  refine ⟨p'.toQuery, hq', halike.search, halike.partnerSearch, fun w around ps => ?_⟩
  have hpartners : ps.search p'.toQuery = ps.search p.toQuery := by
    funext name
    simp only [Partners.search, halike.partnerSearch]
  have hown : ∀ around, (w.services around).inHouse.search p'.toQuery =
      (w.services around).inHouse.search p.toQuery := fun _ => halike.search _
  simp only [progressOf_search hroute hq, progressOf_search hroute' hq',
    Surroundings.withPartners, hpartners, hown]

/-- A search with half a centre, a side without end and a blank radius. -/
def blurred : Request :=
  { method := "GET"
    target := "/api/listings/search?lat=abc&lng=-120&north=inf&radius=+&location_query=Tahoe"
    contentType := none
    body := "" }

def plain : Request :=
  { blurred with target := "/api/listings/search?lng=-120&location_query=Tahoe" }

theorem Unusable.of_isNone {s : String} (h : (Decimal.float? (Text.trim s.toList)).isNone = true) :
    Unusable s := fun x hx => by
  rw [hx] at h
  cases h

theorem blurred_as_plain :
    Route.ofRequest? blurred = some .search ∧ Route.ofRequest? plain = some .search ∧
      Dropped (Http.Form.read blurred.query) (Http.Form.read plain.query) ∧
      ∃ q q', readSearch blurred = .ok q ∧ readSearch plain = .ok q' ∧
        (∀ provider : Listing.InHouse, provider.search q' = provider.search q) ∧
        (q'.location.resolve .standard fun _ => .ok none).2 = ["Tahoe"] := by
  have hroute : Route.ofRequest? blurred = some .search := by decide +kernel
  have hroute' : Route.ofRequest? plain = some .search := by decide +kernel
  have hread : Http.Form.read blurred.query = [("lat", "abc"), ("lng", "-120"), ("north", "inf"),
    ("radius", " "), ("location_query", "Tahoe")] := by decide +kernel
  have hread' : Http.Form.read plain.query = [("lng", "-120"), ("location_query", "Tahoe")] := by
    decide +kernel
  have hinf : Unusable "inf" := fun x hx => by
    have hnot : (Decimal.float? (Text.trim "inf".toList)).all (!·.isFinite) = true := by decide +kernel
    rw [hx] at hnot
    simpa using hnot
  have hd : Dropped (Http.Form.read blurred.query) (Http.Form.read plain.query) := by
    rw [hread, hread']
    exact .drop (by decide) (.of_isNone (by decide +kernel)) <| .keep _ <| .drop (by decide) hinf <|
      .drop (by decide) (.of_isNone (by decide +kernel)) <| .keep _ .nil
  obtain ⟨q, hq⟩ : ∃ q, readSearch blurred = .ok q := by
    cases hq : readSearch blurred with
    | ok q => exact ⟨q, rfl⟩
    | error e =>
      have hok : (readSearch blurred).isOk = true := by decide +kernel
      rw [hq] at hok
      cases hok
  obtain ⟨q', hq', hsearch, -⟩ := unusable_numbers_as_missing.1 blurred plain q hroute hroute' hd hq
  refine ⟨hroute, hroute', hd, q, q', hq, hq', hsearch, ?_⟩
  have hasked : ((readSearch plain).map fun q =>
      (q.location.resolve .standard fun _ => .ok none).2) = .ok ["Tahoe"] := by decide +kernel
  rw [hq'] at hasked
  exact Except.ok.inj hasked

end Lodging.Web
