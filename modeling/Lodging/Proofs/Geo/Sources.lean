import Lodging.Proofs.Geo.Resolve

/-! # The sources of a location

A location is resolved from the first of its sources that can be used: four sides, then two coordinates,
then a text. Each source settles the filter without the later ones. Only a text is asked for, once and
without the blanks around it, and a geocoder that fails is as good as one that knows no such place. -/

namespace Lodging.Geo

structure Bounds.Encloses (b : Bounds) (a : Box) : Prop where
  north : b.north = some a.north ∧ a.north.isFinite = true
  south : b.south = some a.south ∧ a.south.isFinite = true
  east : b.east = some a.east ∧ a.east.isFinite = true
  west : b.west = some a.west ∧ a.west.isFinite = true

structure Coordinates.Marks (c : Coordinates) (p : Point Float) : Prop where
  lat : c.lat = some p.lat ∧ p.lat.isFinite = true
  lng : c.lng = some p.lng ∧ p.lng.isFinite = true

namespace LocationQuery

def HasArea (q : LocationQuery) (a : Box) : Prop := ∃ b, q.bounds = some b ∧ b.Encloses a

def HasCentre (q : LocationQuery) (c : Coordinates) (p : Point Float) : Prop :=
  q.coordinates = some c ∧ c.Marks p

variable {q : LocationQuery}

theorem hasArea_iff {a : Box} : q.HasArea a ↔ q.box? = some a := by
  have hbox : ∀ b : Bounds, b.Encloses a ↔ b.box? = some a := fun b => by
    rw [Bounds.box?_eq_some]
    exact ⟨fun h => ⟨h.north, h.south, h.east, h.west⟩, fun ⟨hn, hs, he, hw⟩ => ⟨hn, hs, he, hw⟩⟩
  simp only [HasArea, hbox, box?, Option.bind_eq_some_iff]

theorem marks_iff {c : Coordinates} {p : Point Float} : c.Marks p ↔ c.point? = some p := by
  rw [Coordinates.point?_eq_some]
  exact ⟨fun h => ⟨h.lat, h.lng⟩, fun ⟨hlat, hlng⟩ => ⟨hlat, hlng⟩⟩

theorem box?_eq_none (h : ∀ a, ¬ q.HasArea a) : q.box? = none :=
  Option.eq_none_iff_forall_ne_some.mpr fun a ha => h a (hasArea_iff.mpr ha)

theorem centre?_eq_none (h : ∀ c p, ¬ q.HasCentre c p) : q.centre? = none := by
  cases hc : q.coordinates with
  | none => rw [centre?, hc]; rfl
  | some c =>
    cases hp : q.point? with
    | none => rw [centre?_eq hc, hp]; rfl
    | some p =>
      rw [point?, hc] at hp
      exact absurd ⟨hc, marks_iff.mpr hp⟩ (h c p)

/-- How a location is resolved, source by source. -/
structure Settles (q : LocationQuery) (d : Defaults) : Prop where
  /-- An area makes the filter alone. -/
  area : ∀ a, q.HasArea a → ∀ geocoder, (q.resolve d geocoder).1.filter = .range a.range ∧
    (q.resolve d geocoder).2 = []
  /-- Without one, a centre settles everything together with the defaults. -/
  centre : (∀ a, ¬ q.HasArea a) → ∀ c p, q.HasCentre c p → ∀ geocoder, q.resolve d geocoder =
    (⟨.range (.ofRadius p ((usableRadius? c.radius).getD d.radius) (c.measurement.getD d.measurement)),
      some p⟩, [])
  /-- Without either, a text is asked for, and taken as it is if no place comes back. -/
  text : (∀ a, ¬ q.HasArea a) → (∀ c p, ¬ q.HasCentre c p) → ∀ s, q.text = some s →
    Text.trimmed s ≠ "" → ∀ geocoder, (q.resolve d geocoder).2 = [Text.trimmed s] ∧
      match geocoder (Text.trimmed s) with
      | .error _ | .ok none => (q.resolve d geocoder).1 = ⟨.text (Text.trimmed s), none⟩
      | .ok (some place) => (q.resolve d geocoder).1 =
          ⟨.range ((place.area.map Box.range).getD (.ofRadius place.point d.radius d.measurement)),
            some place.point⟩
  /-- Without any source nothing is asked and all places are admitted. -/
  nowhere : (∀ a, ¬ q.HasArea a) → (∀ c p, ¬ q.HasCentre c p) →
    (∀ s, q.text = some s → Text.trimmed s = "") → ∀ geocoder,
      q.resolve d geocoder = (⟨.everywhere, none⟩, [])

theorem settles (q : LocationQuery) (d : Defaults) : q.Settles d := by
  refine ⟨?_, ?_, ?_, ?_⟩
  · intro a ha geocoder
    rw [resolve, lookup_eq, hasArea_iff.mp ha]
    exact ⟨rfl, rfl⟩
  · intro hbox c p hp geocoder
    have hpoint : q.point? = some p := by
      rw [point?, hp.1]
      exact marks_iff.mp hp.2
    rw [resolve, lookup_eq, box?_eq_none hbox, centre?_eq hp.1, hpoint]
    rfl
  · intro hbox hcentre s hs hblank geocoder
    have haddress : q.address? = some (Text.trimmed s) := by
      rw [address?, hs]
      exact Option.filter_some_pos (by simpa using hblank)
    rw [resolve, lookup_eq, box?_eq_none hbox, centre?_eq_none hcentre, haddress]
    refine ⟨rfl, ?_⟩
    split
    · next h => simp only [h, Resolved.ofAnswer]
    · next h => simp only [h, Resolved.ofAnswer]
    · next place h =>
      simp only [h, Resolved.ofAnswer]
      cases place.area <;> rfl
  · intro hbox hcentre hblank geocoder
    have haddress : q.address? = none := by
      cases hs : q.text with
      | none => rw [address?, hs]; rfl
      | some s =>
        rw [address?, hs]
        exact Option.filter_some_neg (by simpa using hblank s hs)
    rw [resolve, lookup_eq, box?_eq_none hbox, centre?_eq_none hcentre, haddress]

end LocationQuery

end Lodging.Geo
