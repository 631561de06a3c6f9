import Lodging.Proofs.Decimal.Whole
import Lodging.Proofs.Geo.Resolve
import Lodging.Remote.PartnerApi

/-! # What a partner is told of a search

The parameters of a search on a partner are those of its parts that have a value. Read back, they make a
search that is resolved like the one they were written for, unless that has a radius of zero: it is not
written, and a missing radius is not resolved like one of zero. -/

namespace Lodging.Remote

structure Reading where
  number? : String → Option Float
  day? : String → Option Day

/-- The search that is read from parameters. What has no parameter is missing. -/
def Reading.query (r : Reading) (ps : List (String × String)) : Query :=
  let number? (name : String) : Option Float := (ps.lookup name).bind r.number?
  { location := {
      coordinates := some {
        lat := number? "lat", lng := number? "lng", radius := number? "radius"
        measurement := (ps.lookup "measurement").bind Geo.Measurement.ofName? }
      bounds := some {
        north := number? "north", south := number? "south", east := number? "east"
        west := number? "west" }
      text := ps.lookup "location" }
    checkIn := (ps.lookup "check_in").bind r.day?
    checkOut := (ps.lookup "check_out").bind r.day?
    guests := ((ps.lookup "guests").bind (Decimal.read? Decimal.word32 ·.toList)).map Int.toNat }

namespace PartnerApi

/-! ## What is told -/

def floatText (x : Float) : String := .ofList (Decimal.plain x)

/-- Of a centre that cannot be used nothing is told, and of a radius only if it is positive. -/
def toldCentre (q : Geo.LocationQuery) : Geo.Coordinates :=
  match q.coordinates, q.point? with
  | some c, some p =>
    { lat := some p.lat, lng := some p.lng
      radius := c.radius.filter fun r => r.isFinite && (0 : Float) < r
      measurement := c.measurement }
  | _, _ => ⟨none, none, none, none⟩

def toldArea (q : Geo.LocationQuery) : Geo.Bounds :=
  match q.box? with
  | some b => ⟨some b.north, some b.south, some b.east, some b.west⟩
  | none => ⟨none, none, none, none⟩

def told (q : Geo.LocationQuery) : Geo.LocationQuery := ⟨some (toldCentre q), some (toldArea q), q.address?⟩

def toldNumbers (q : Geo.LocationQuery) : List (Option Float) :=
  let c := toldCentre q
  let b := toldArea q
  [c.lat, c.lng, c.radius, b.north, b.south, b.east, b.west]

/-- All parameters of a search, with or without a value. -/
def fields (q : Query) : List (String × Option String) :=
  let c := toldCentre q.location
  let b := toldArea q.location
  [("guests", some (.ofList (Decimal.digits q.partySize))),
    ("lat", c.lat.map floatText), ("lng", c.lng.map floatText), ("radius", c.radius.map floatText),
    ("measurement", c.measurement.map (·.name)),
    ("north", b.north.map floatText), ("south", b.south.map floatText),
    ("east", b.east.map floatText), ("west", b.west.map floatText),
    ("location", q.location.address?), ("check_in", q.checkIn.map (·.text)),
    ("check_out", q.checkOut.map (·.text))]

def given (fields : List (String × Option String)) : List (String × String) :=
  fields.filterMap fun f => f.2.map (f.1, ·)

theorem given_append (fs gs : List (String × Option String)) : given (fs ++ gs) = given fs ++ given gs :=
  List.filterMap_append

theorem given_singleton (name : String) (value : Option String) :
    given [(name, value)] = value.toList.map (name, ·) := by
  cases value <;> rfl

theorem centre_given (q : Geo.LocationQuery) : (q.coordinates.map centreParams).getD [] =
    given [("lat", (toldCentre q).lat.map floatText), ("lng", (toldCentre q).lng.map floatText),
      ("radius", (toldCentre q).radius.map floatText),
      ("measurement", (toldCentre q).measurement.map (·.name))] := by
  unfold toldCentre Geo.LocationQuery.point?
  cases q.coordinates with
  | none => rfl
  | some c =>
    simp only [Option.map_some, Option.getD_some, Option.bind_some, centreParams]
    cases c.point? with
    | none => rfl
    | some p =>
      dsimp only
      cases c.radius.filter fun r => r.isFinite && decide ((0 : Float) < r) <;>
        cases c.measurement <;> rfl

theorem area_given (q : Geo.LocationQuery) : (q.box?.map areaParams).getD [] =
    given [("north", (toldArea q).north.map floatText), ("south", (toldArea q).south.map floatText),
      ("east", (toldArea q).east.map floatText), ("west", (toldArea q).west.map floatText)] := by
  unfold toldArea
  cases q.box? <;> rfl

theorem searchParams_eq (q : Query) : searchParams q = given (fields q) := by
  have hday : ∀ (name : String) (d : Option Day),
      d.toList.map ((name, ·.text)) = given [(name, d.map (·.text))] := by
    intro name d
    cases d <;> rfl
  have haddress : (q.location.text.map Text.trimmed).filter (· ≠ "") = q.location.address? := rfl
  have hguests : [("guests", String.ofList (Decimal.digits q.partySize))] =
      given [("guests", some (.ofList (Decimal.digits q.partySize)))] := rfl
  rw [searchParams, centre_given, area_given, hday, hday, haddress, ← given_singleton, hguests]
  simp only [← given_append]
  rfl

theorem lookup_given {fields : List (String × Option String)} (h : (fields.map Prod.fst).Nodup)
    {name : String} {value : Option String} (hf : (name, value) ∈ fields) :
    (given fields).lookup name = value := by
  induction fields with
  | nil => cases hf
  | cons f fields ih =>
    obtain ⟨hname, hfields⟩ := List.nodup_cons.mp h
    have hcons : given (f :: fields) = given [f] ++ given fields := given_append [f] fields
    rw [hcons, given_singleton f.1 f.2]
    rcases List.mem_cons.mp hf with rfl | hf
    · cases value with
      | some v => simp
      | none =>
        refine List.lookup_eq_none_iff.mpr fun g hg => ?_
        obtain ⟨g', hg', hvalue⟩ := List.mem_filterMap.mp hg
        obtain ⟨v, -, rfl⟩ := Option.map_eq_some_iff.mp hvalue
        simpa using fun he : name = g'.1 => hname (List.mem_map.mpr ⟨g', hg', he.symm⟩)
    · have hne : name ≠ f.1 := fun he => hname (List.mem_map.mpr ⟨_, hf, he⟩)
      have hbeq : (name == f.1) = false := beq_false_of_ne hne
      cases f.2 <;> simp [List.lookup_cons, ih hfields hf, hbeq]

theorem lookup_searchParams {q : Query} {name : String} {value : Option String}
    (h : (name, value) ∈ fields q) : (searchParams q).lookup name = value := by
  have hnames : (fields q).map Prod.fst = ["guests", "lat", "lng", "radius", "measurement", "north",
    "south", "east", "west", "location", "check_in", "check_out"] := rfl
  rw [searchParams_eq]
  exact lookup_given (hnames ▸ by decide) h

end PartnerApi

structure Reading.Faithful (r : Reading) (q : Query) : Prop where
  number : ∀ x, some x ∈ PartnerApi.toldNumbers q.location →
    r.number? (PartnerApi.floatText x) = some x
  day : ∀ d, d ∈ q.checkIn ∨ d ∈ q.checkOut → r.day? d.text = some d

namespace PartnerApi

variable {r : Reading} {q : Query}

theorem float_read (h : r.Faithful q) (name : String) (x : Option Float)
    (hname : (name, x.map floatText) ∈ fields q) (hx : x ∈ toldNumbers q.location) :
    ((searchParams q).lookup name).bind r.number? = x := by
  rw [lookup_searchParams hname]
  cases x with
  | none => rfl
  | some y => exact h.number y hx

theorem day_read (h : r.Faithful q) (name : String) (d : Option Day)
    (hname : (name, d.map (·.text)) ∈ fields q) (hd : d = q.checkIn ∨ d = q.checkOut) :
    ((searchParams q).lookup name).bind r.day? = d := by
  rw [lookup_searchParams hname]
  cases d with
  | none => rfl
  | some e => exact h.day e (hd.imp Eq.symm Eq.symm)

theorem measurement_read (q : Query) :
    ((searchParams q).lookup "measurement").bind Geo.Measurement.ofName? =
      (toldCentre q.location).measurement := by
  have hname : ("measurement", (toldCentre q.location).measurement.map (·.name)) ∈ fields q := by
    simp [fields]
  rw [lookup_searchParams hname]
  cases (toldCentre q.location).measurement with
  | none => rfl
  | some m => exact Geo.Measurement.ofName?_name m

theorem guests_read (hguests : (q.partySize : Int) ≤ Decimal.word32.high) :
    (((searchParams q).lookup "guests").bind (Decimal.read? Decimal.word32 ·.toList)).map Int.toNat =
      some q.partySize := by
  have hname : ("guests", some (String.ofList (Decimal.digits q.partySize))) ∈ fields q := by
    simp [fields]
  rw [lookup_searchParams hname, Option.bind_some, String.toList_ofList, Decimal.read?,
    Decimal.read_digits hguests]
  rfl

/-- What is told is what is read. -/
theorem query_searchParams (h : r.Faithful q) (hguests : (q.partySize : Int) ≤ Decimal.word32.high) :
    r.query (searchParams q) =
      { q with location := told q.location, guests := some q.partySize } := by
  unfold Reading.query
  dsimp only
  rw [float_read h "lat" (toldCentre q.location).lat, float_read h "lng" (toldCentre q.location).lng,
    float_read h "radius" (toldCentre q.location).radius, measurement_read,
    float_read h "north" (toldArea q.location).north, float_read h "south" (toldArea q.location).south,
    float_read h "east" (toldArea q.location).east, float_read h "west" (toldArea q.location).west,
    day_read h "check_in" q.checkIn, day_read h "check_out" q.checkOut, guests_read hguests,
    lookup_searchParams (show ("location", q.location.address?) ∈ fields q by simp [fields])]
  · rfl
  all_goals simp [fields, toldNumbers]

/-! ## What counts of what is told -/

section

variable (l : Geo.LocationQuery)

theorem toldCentre_eq {c : Geo.Coordinates} {p : Geo.Point Float} (hc : l.coordinates = some c)
    (hp : l.point? = some p) : toldCentre l =
      { lat := some p.lat, lng := some p.lng
        radius := c.radius.filter fun r => r.isFinite && (0 : Float) < r
        measurement := c.measurement } := by
  rw [toldCentre, hc, hp]

theorem point?_told : (told l).point? = l.point? := by
  show (toldCentre l).point? = l.point?
  cases hp : l.point? with
  | none =>
    rw [toldCentre, hp]
    cases l.coordinates <;> rfl
  | some p =>
    obtain ⟨c, hc, hpoint⟩ := Option.bind_eq_some_iff.mp hp
    obtain ⟨⟨-, hlat⟩, -, hlng⟩ := Geo.Coordinates.point?_eq_some.mp hpoint
    rw [toldCentre_eq l hc hp]
    exact Geo.Coordinates.point?_eq_some.mpr ⟨⟨rfl, hlat⟩, rfl, hlng⟩

theorem box?_told : (told l).box? = l.box? := by
  show (toldArea l).box? = l.box?
  cases hb : l.box? with
  | none =>
    rw [toldArea, hb]
    rfl
  | some a =>
    obtain ⟨b, -, hbox⟩ := Option.bind_eq_some_iff.mp hb
    obtain ⟨⟨-, hnorth⟩, ⟨-, hsouth⟩, ⟨-, heast⟩, -, hwest⟩ := Geo.Bounds.box?_eq_some.mp hbox
    rw [toldArea, hb]
    exact Geo.Bounds.box?_eq_some.mpr ⟨⟨rfl, hnorth⟩, ⟨rfl, hsouth⟩, ⟨rfl, heast⟩, rfl, hwest⟩

theorem address?_told : (told l).address? = l.address? := by
  show (l.address?.map Text.trimmed).filter (· ≠ "") = l.address?
  cases ha : l.address? with
  | none => rfl
  | some a =>
    obtain ⟨htext, hne⟩ := Option.filter_eq_some_iff.mp ha
    obtain ⟨text, -, rfl⟩ := Option.map_eq_some_iff.mp htext
    have htrimmed : Text.trimmed (Text.trimmed text) = Text.trimmed text := by
      rw [Text.trimmed, Text.trimmed, String.toList_ofList, Text.trim_trim]
    rw [Option.map_some, htrimmed]
    exact Option.filter_some_pos hne

/-- All of a centre that counts is told, unless its radius is zero. -/
theorem centre?_told (hradius : ∀ p r m, l.centre? = some (p, some r, m) → (0 : Float) < r) :
    (told l).centre? = l.centre? := by
  rw [Geo.LocationQuery.centre?_eq (c := toldCentre l) rfl, point?_told]
  cases hp : l.point? with
  | none =>
    cases hc : l.coordinates with
    | none => rw [Geo.LocationQuery.centre?, hc]; rfl
    | some c => rw [Geo.LocationQuery.centre?_eq hc, hp]; rfl
  | some p =>
    obtain ⟨c, hc, -⟩ := Option.bind_eq_some_iff.mp hp
    rw [Geo.LocationQuery.centre?_eq hc, hp] at hradius ⊢
    rw [toldCentre_eq l hc hp, Option.map_some, Option.map_some]
    dsimp only
    rw [Geo.usableRadius?_filter fun r hr => hradius p r c.measurement (by rw [Option.map_some, hr])]

end

/-- A search that is read from its own parameters is the same search: its location is resolved alike, with
the same questions to the geocoder, for as many guests, nights and days. Only a radius of zero is excepted,
where it would count. -/
theorem search_read_back (h : r.Faithful q) (hguests : (q.partySize : Int) ≤ Decimal.word32.high)
    (hradius : q.location.box? = none →
      ∀ p radius m, q.location.centre? = some (p, some radius, m) → (0 : Float) < radius) :
    (∀ d geocoder, (r.query (searchParams q)).location.resolve d geocoder =
        q.location.resolve d geocoder) ∧
      (r.query (searchParams q)).partySize = q.partySize ∧
      (r.query (searchParams q)).nights? = q.nights? ∧
      (r.query (searchParams q)).window? = q.window? := by
  rw [query_searchParams h hguests]
  refine ⟨fun d geocoder => ?_, rfl, rfl, rfl⟩
  exact Geo.LocationQuery.resolve_congr (box?_told _) (point?_told _)
    (fun hbox => centre?_told _ (hradius hbox)) (address?_told _) d geocoder

def likewise : Reading where
  number? s := Decimal.float? s.toList
  day? s := (Day.read s.toList).toOption

theorem inRange_cabin : Day.lowest ≤ Civil.number ⟨2025, 7, 1⟩ ∧
    Civil.number ⟨2025, 7, 1⟩ ≤ Day.highest := by decide

def cabin (radius : Float) : Query where
  location := ⟨some ⟨some 40, some (-100), some radius, some .kilometres⟩, none, none⟩
  checkIn := some ⟨Civil.number ⟨2025, 7, 1⟩, inRange_cabin⟩
  checkOut := none
  guests := none

theorem cabin_read_back :
    likewise.Faithful (cabin 5) ∧ ((cabin 5).partySize : Int) ≤ Decimal.word32.high ∧
      (cabin 5).location.centre? = some (⟨40, -100⟩, some 5, some .kilometres) ∧
      (∀ d geocoder, (likewise.query (searchParams (cabin 5))).location.resolve d geocoder =
        (cabin 5).location.resolve d geocoder) ∧
      (likewise.query (searchParams (cabin 5))).window? = (cabin 5).window? := by
  have hnumbers : toldNumbers (cabin 5).location =
      [some 40, some (-100), some 5, none, none, none, none] := by decide +kernel
  have hfaithful : likewise.Faithful (cabin 5) := by
    constructor
    · intro x hx
      simp only [hnumbers, List.mem_cons, Option.some.injEq, reduceCtorEq, or_false,
        List.not_mem_nil] at hx
      rcases hx with rfl | rfl | rfl <;> decide +kernel
    · intro d hd
      rcases hd with hd | hd
      · cases hd
        decide +kernel
      · cases hd
  have hcentre : (cabin 5).location.centre? = some (⟨40, -100⟩, some 5, some .kilometres) := by
    decide +kernel
  have hguests : ((cabin 5).partySize : Int) ≤ Decimal.word32.high := by decide
  obtain ⟨hresolve, -, -, hwindow⟩ := search_read_back hfaithful hguests fun _ p radius m h => by
    rw [hcentre] at h
    cases h
    decide +kernel
  exact ⟨hfaithful, hguests, hcentre, hresolve, hwindow⟩

/-- Without its radius of zero the cabin is searched for in a range around it. -/
theorem cabin_radius_lost :
    ((likewise.query (searchParams (cabin 0))).location.resolve .standard fun _ => .ok none).1.filter ≠
      ((cabin 0).location.resolve .standard fun _ => .ok none).1.filter := by
  let south? : Geo.SpatialFilter → Option Float := fun f =>
    match f with
    | .range r => some r.latMin
    | _ => none
  intro h
  have hsouth := congrArg south? h
  revert hsouth
  decide +kernel

end PartnerApi

end Lodging.Remote
