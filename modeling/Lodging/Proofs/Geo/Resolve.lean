import Lodging.Geo.Resolve
import Lodging.Proofs.Text.Blank

/-! # What of a location counts

A location is resolved by its area, its centre with what can be used of the radius, and its text without
the blanks around it. Two locations that agree in these are resolved alike. -/

namespace Lodging.Geo

theorem finite?_eq_some {x : Option Float} {y : Float} :
    finite? x = some y ↔ x = some y ∧ y.isFinite = true := Option.filter_eq_some_iff

/-- A centre that can be used is one of two finite coordinates. -/
theorem Coordinates.point?_eq_some {c : Coordinates} {p : Point Float} : c.point? = some p ↔
    (c.lat = some p.lat ∧ p.lat.isFinite = true) ∧ (c.lng = some p.lng ∧ p.lng.isFinite = true) := by
  rw [← finite?_eq_some, ← finite?_eq_some]
  unfold point?
  cases finite? c.lat <;> cases finite? c.lng <;> cases p <;> simp

/-- An area that can be used is one of four finite sides. -/
theorem Bounds.box?_eq_some {b : Bounds} {a : Box} : b.box? = some a ↔
    (b.north = some a.north ∧ a.north.isFinite = true) ∧ (b.south = some a.south ∧ a.south.isFinite = true) ∧
      (b.east = some a.east ∧ a.east.isFinite = true) ∧ (b.west = some a.west ∧ a.west.isFinite = true) := by
  rw [← finite?_eq_some, ← finite?_eq_some, ← finite?_eq_some, ← finite?_eq_some]
  unfold box?
  cases finite? b.north <;> cases finite? b.south <;> cases finite? b.east <;> cases finite? b.west <;>
    cases a <;> simp

/-- A radius that is positive counts, and if only such a one counts, no other is needed. -/
theorem usableRadius?_filter {radius : Option Float}
    (h : ∀ r, usableRadius? radius = some r → (0 : Float) < r) :
    usableRadius? (radius.filter fun r => r.isFinite && (0 : Float) < r) = usableRadius? radius := by
  cases radius with
  | none => rfl
  | some r =>
    by_cases hr : r.isFinite = true ∧ (0 : Float) < r
    · rw [Option.filter_some_pos (by simp [hr])]
    · have hnone : usableRadius? (some r) = none := by
        refine Option.filter_some_neg (eq_false_of_ne_true fun hr' => hr ?_)
        have hfinite : r.isFinite = true := (Bool.and_eq_true_iff.mp hr').1
        exact ⟨hfinite, h r (Option.filter_some_pos hr')⟩
      rw [Option.filter_some_neg (by simpa using hr), hnone]
      rfl

namespace LocationQuery

def centre? (q : LocationQuery) : Option (Point Float × Option Float × Option Measurement) :=
  q.coordinates.bind fun c => c.point?.map fun p => (p, usableRadius? c.radius, c.measurement)

theorem centre?_eq {q : LocationQuery} {c : Coordinates} (hc : q.coordinates = some c) :
    q.centre? = q.point?.map fun p => (p, usableRadius? c.radius, c.measurement) := by
  rw [centre?, point?, hc]
  rfl

theorem lookup_eq (d : Defaults) (q : LocationQuery) : q.lookup d =
    match q.box?, q.centre? with
    | some b, _ => .settled ⟨.range b.range, q.point?⟩
    | none, some (p, radius, m) =>
      .settled ⟨.range (.ofRadius p (radius.getD d.radius) (m.getD d.measurement)), some p⟩
    | none, none =>
      match q.address? with
      | some a => .ask a
      | none => .settled ⟨.everywhere, none⟩ := by
  unfold lookup centre? point?
  cases q.box? with
  | some b => rfl
  | none =>
    cases q.coordinates with
    | none => rfl
    | some c =>
      cases hpoint : c.point? with
      | some p => simp [hpoint]
      | none => cases q.address? <;> simp [hpoint]

theorem resolve_congr {q q' : LocationQuery} (hbox : q'.box? = q.box?) (hpoint : q'.point? = q.point?)
    (hcentre : q.box? = none → q'.centre? = q.centre?) (haddress : q'.address? = q.address?)
    (d : Defaults) (geocoder : Geocoder) : q'.resolve d geocoder = q.resolve d geocoder := by
  have hlookup : q'.lookup d = q.lookup d := by
    rw [lookup_eq, lookup_eq, hbox, hpoint, haddress]
    cases hnone : q.box? with
    | some b => rfl
    | none => rw [hcentre hnone]
  rw [resolve, resolve, hlookup]

end LocationQuery

end Lodging.Geo
