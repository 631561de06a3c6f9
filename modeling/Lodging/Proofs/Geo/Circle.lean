import Lodging.Geo.Range
import Mathlib.Algebra.Order.Field.Rat
import Mathlib.Algebra.Order.Interval.Set.Group
import Mathlib.Algebra.Order.Ring.Abs
import Mathlib.Tactic.Linarith

/-! # The circle of longitudes

Longitudes lie on a circle of 360 degrees, on which -180 and 180 are one meridian. The range around a
point has an arc of this circle. The arc lies between its two ends as numbers, or runs over that meridian,
in which case the western end is the larger number, or it is the whole circle. -/

namespace Lodging.Geo

variable {α : Type} [LinearOrder α]

def Range.Spans (r : Range α) (x : α) : Prop :=
  if r.lngMin ≤ r.lngMax then r.lngMin ≤ x ∧ x ≤ r.lngMax else r.lngMin ≤ x ∨ x ≤ r.lngMax

theorem Range.contains_iff {r : Range α} {q : Point α} :
    r.contains q = true ↔ (r.latMin ≤ q.lat ∧ q.lat ≤ r.latMax) ∧ r.Spans q.lng := by
  simp only [contains, Spans, Bool.and_eq_true, decide_eq_true_eq]
  split <;> simp

variable [Field α]

/-- The distance of two longitudes on the circle, the shorter way round. -/
def arc (x y : α) : α := min |x - y| (360 - |x - y|)

theorem wrap_of_gt {x : α} (h : 180 < x) : wrap x = x - 360 := by
  rw [wrap, if_pos h]

theorem Range.around_of_half_le (p : Point α) (dlat : α) {dlng : α} (h : 180 ≤ dlng) :
    (around p dlat dlng).lngMin = -180 ∧ (around p dlat dlng).lngMax = 180 := by
  rw [around, if_pos h]
  exact ⟨rfl, rfl⟩

theorem Range.around_of_lt_half (p : Point α) (dlat : α) {dlng : α} (h : dlng < 180) :
    (around p dlat dlng).lngMin = wrap (p.lng - dlng) ∧
      (around p dlat dlng).lngMax = wrap (p.lng + dlng) := by
  rw [around, if_neg h.not_ge]
  exact ⟨rfl, rfl⟩

variable [IsStrictOrderedRing α]

/-! ## Longitudes brought back -/

theorem wrap_of_lt {x : α} (h : x < -180) : wrap x = x + 360 := by
  rw [wrap, if_neg (by linarith), if_pos h]

theorem wrap_of_abs_le {x : α} (h : |x| ≤ 180) : wrap x = x := by
  obtain ⟨hwest, heast⟩ := abs_le.mp h
  rw [wrap, if_neg heast.not_gt, if_neg hwest.not_gt]

/-- One turn is enough. -/
theorem abs_wrap_le {x : α} (h : |x| ≤ 360) : |wrap x| ≤ 180 := by
  obtain ⟨hwest, heast⟩ := abs_le.mp h
  rcases lt_or_ge x (-180) with hlt | hge
  · rw [wrap_of_lt hlt]
    exact abs_le.mpr ⟨by linarith, by linarith⟩
  · rcases lt_or_ge 180 x with hgt | hle
    · rw [wrap_of_gt hgt]
      exact abs_le.mpr ⟨by linarith, by linarith⟩
    · have hx : |x| ≤ 180 := abs_le.mpr ⟨hge, hle⟩
      rwa [wrap_of_abs_le hx]

/-! ## Distances on the circle -/

theorem near_iff {x c d : α} : |x - c| ≤ d ↔ c - d ≤ x ∧ x ≤ c + d := by
  rw [abs_sub_comm, Set.mem_Icc_iff_abs_le, Set.mem_Icc]

/-- A longitude is near another as a number, or after one turn to the west or to the east. -/
theorem arc_le_iff {x c d : α} :
    arc x c ≤ d ↔ (c - d ≤ x ∧ x ≤ c + d) ∨ c - d + 360 ≤ x ∨ x ≤ c + d - 360 := by
  have hturned : 360 - |x - c| ≤ d ↔ c - d + 360 ≤ x ∨ x ≤ c + d - 360 := by
    rw [sub_le_comm, le_abs]
    constructor
    · intro h
      exact h.imp (fun h => by linarith) fun h => by linarith
    · intro h
      exact h.imp (fun h => by linarith) fun h => by linarith
  rw [arc, min_le_iff, near_iff, hturned]

/-- An arc that runs over the meridian to the west comes back from the east. -/
theorem arc_le_iff_west {x c d : α} (hx : |x| < 180) (hd : d < 180) (hover : c - d < -180) :
    arc x c ≤ d ↔ c - d + 360 ≤ x ∨ x ≤ c + d := by
  obtain ⟨hwest, heast⟩ := abs_lt.mp hx
  rw [arc_le_iff]
  constructor
  · intro h
    rcases h with ⟨-, hend⟩ | hstart | hturned
    · exact .inr hend
    · exact .inl hstart
    · exact .inr (by linarith)
  · intro h
    rcases h with hstart | hend
    · exact .inr (.inl hstart)
    · exact .inl ⟨by linarith, hend⟩

/-- An arc that runs over the meridian to the east comes back from the west. -/
theorem arc_le_iff_east {x c d : α} (hx : |x| < 180) (hd : d < 180) (hover : 180 < c + d) :
    arc x c ≤ d ↔ c - d ≤ x ∨ x ≤ c + d - 360 := by
  obtain ⟨hwest, heast⟩ := abs_lt.mp hx
  rw [arc_le_iff]
  constructor
  · intro h
    rcases h with ⟨hstart, -⟩ | hturned | hend
    · exact .inl hstart
    · exact .inl (by linarith)
    · exact .inr hend
  · intro h
    rcases h with hstart | hend
    · exact .inl ⟨hstart, by linarith⟩
    · exact .inr (.inr hend)

theorem arc_le_iff_within {x c d : α} (hx : |x| < 180) (hstart : -180 ≤ c - d) (hend : c + d ≤ 180) :
    arc x c ≤ d ↔ c - d ≤ x ∧ x ≤ c + d := by
  obtain ⟨hwest, heast⟩ := abs_lt.mp hx
  rw [arc_le_iff]
  refine ⟨fun h => ?_, .inl⟩
  rcases h with h | h | h
  · exact h
  · exact absurd h (by linarith)
  · exact absurd h (by linarith)

/-- No two longitudes are further from each other than half the circle. -/
theorem arc_le_half (x c : α) : arc x c ≤ 180 := by
  rcases le_total |x - c| 180 with h | h
  · exact min_le_of_left_le h
  · exact min_le_of_right_le (by linarith)

namespace Range

variable {p : Point α} {dlat dlng : α}

theorem abs_around_le (hp : |p.lng| ≤ 180) (hlng : 0 ≤ dlng) :
    |(around p dlat dlng).lngMin| ≤ 180 ∧ |(around p dlat dlng).lngMax| ≤ 180 := by
  rcases le_or_gt 180 dlng with hfull | harc
  · obtain ⟨hmin, hmax⟩ := around_of_half_le p dlat hfull
    have h : |(180 : α)| ≤ 180 := (abs_of_nonneg (by linarith)).le
    rw [hmin, hmax, abs_neg]
    exact ⟨h, h⟩
  · obtain ⟨hmin, hmax⟩ := around_of_lt_half p dlat harc
    obtain ⟨hwest, heast⟩ := abs_le.mp hp
    rw [hmin, hmax]
    exact ⟨abs_wrap_le (abs_le.mpr ⟨by linarith, by linarith⟩),
      abs_wrap_le (abs_le.mpr ⟨by linarith, by linarith⟩)⟩

/-- Off the meridian where the circle is cut open, the longitudes of the range are those of the arc. -/
theorem spans_around (hp : |p.lng| ≤ 180) (hlng : 0 ≤ dlng) {x : α} (hx : |x| < 180) :
    (around p dlat dlng).Spans x ↔ arc x p.lng ≤ dlng := by
  obtain ⟨hwest, heast⟩ := abs_le.mp hp
  obtain ⟨hxwest, hxeast⟩ := abs_lt.mp hx
  rcases le_or_gt 180 dlng with hfull | harc
  · obtain ⟨hmin, hmax⟩ := around_of_half_le p dlat hfull
    have hall : arc x p.lng ≤ dlng := (arc_le_half x p.lng).trans hfull
    rw [Spans, hmin, hmax, if_pos (by linarith)]
    exact iff_of_true ⟨hxwest.le, hxeast.le⟩ hall
  obtain ⟨hmin, hmax⟩ := around_of_lt_half p dlat harc
  rw [Spans, hmin, hmax]
  -- with less than half the circle to each side the meridian is passed on one side at most
  rcases lt_or_ge (p.lng - dlng) (-180) with hover | hstart
  · have hend : |p.lng + dlng| ≤ 180 := abs_le.mpr ⟨by linarith, by linarith⟩
    rw [wrap_of_lt hover, wrap_of_abs_le hend, if_neg (by linarith)]
    exact (arc_le_iff_west hx harc hover).symm
  rw [wrap_of_abs_le (abs_le.mpr ⟨hstart, by linarith⟩)]
  rcases lt_or_ge 180 (p.lng + dlng) with hover | hend
  · rw [wrap_of_gt hover, if_neg (by linarith)]
    exact (arc_le_iff_east hx harc hover).symm
  · rw [wrap_of_abs_le (abs_le.mpr ⟨by linarith, hend⟩), if_pos (by linarith)]
    exact (arc_le_iff_within hx hstart hend).symm

/-- In exact arithmetic the range around a point ends at longitudes from -180 to 180, and off the meridian
where these meet it has just the points within the half widths: as numbers in latitude, around the globe
in longitude. -/
theorem around_exact (p : Point α) (hp : |p.lng| ≤ 180) (dlat dlng : α) (hlng : 0 ≤ dlng) :
    (|(around p dlat dlng).lngMin| ≤ 180 ∧ |(around p dlat dlng).lngMax| ≤ 180) ∧
      ∀ q : Point α, -180 < q.lng → q.lng < 180 →
        ((around p dlat dlng).contains q = true ↔
          |q.lat - p.lat| ≤ dlat ∧ arc q.lng p.lng ≤ dlng) := by
  refine ⟨abs_around_le hp hlng, fun q hwest heast => ?_⟩
  rw [contains_iff, spans_around hp hlng (abs_lt.mpr ⟨hwest, heast⟩)]
  exact and_congr_left' near_iff.symm

/-- An island to the west of the meridian, not a degree away from it. -/
def island : Point ℚ := ⟨-17, 1799 / 10⟩

theorem around_island :
    |island.lng| ≤ 180 ∧ (0 : ℚ) ≤ 1 / 2 ∧
      |(around island (1 / 2) (1 / 2)).lngMax| ≤ 180 ∧
      (around island (1 / 2) (1 / 2)).contains ⟨-17, -1797 / 10⟩ = true ∧
      (around island (1 / 2) (1 / 2)).contains ⟨-17, 0⟩ = false := by
  have hlng : |island.lng| ≤ 180 := by decide +kernel
  have hwidth : (0 : ℚ) ≤ 1 / 2 := by decide +kernel
  obtain ⟨⟨-, hmax⟩, hcontains⟩ := around_exact island hlng (1 / 2) (1 / 2) hwidth
  refine ⟨hlng, hwidth, hmax, ?_, ?_⟩
  · exact (hcontains ⟨-17, -1797 / 10⟩ (by decide +kernel) (by decide +kernel)).mpr
      ⟨by decide +kernel, by decide +kernel⟩
  · refine Bool.eq_false_iff.mpr fun h => ?_
    obtain ⟨-, harc⟩ := (hcontains ⟨-17, 0⟩ (by decide +kernel) (by decide +kernel)).mp h
    exact absurd harc (by decide +kernel)

end Range

end Lodging.Geo
