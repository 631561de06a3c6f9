import Lodging.Listing.Query

/-! # The nights of a stay

The nights that a search asks for, as numbers that need not be in the range of the calendar, against
the window that is looked up. A window is missing at the ends of the range only, and there no period
reaches the night that it would have had. So a period has a night of the stay exactly if it overlaps
the window. -/

namespace Lodging

namespace Day

theorem next?_eq_none {d : Day} (h : d.next? = none) : highest ≤ d.number := by
  have hd := d.inRange
  unfold next? ofNumber? at h
  split at h
  · cases h
  · omega

theorem previous?_eq_none {d : Day} (h : d.previous? = none) : d.number ≤ lowest := by
  have hd := d.inRange
  unfold previous? ofNumber? at h
  split at h
  · cases h
  · omega

end Day

namespace Period

/-- A period stays in the range of the calendar, and its last day is not its own. -/
theorem Covers.inRange {p : Period} {n : Int} (h : p.Covers n) :
    Day.lowest ≤ n ∧ n < Day.highest :=
  ⟨Int.le_trans p.start.inRange.1 h.1, Int.lt_of_lt_of_le h.2 p.stop.inRange.2⟩

/-- From a day to the next one there is the night of that day. -/
theorem next?_night {d e : Day} (h : d.next? = some e) :
    d < e ∧ ∀ n, Covers ⟨d, e⟩ n ↔ n = d.number := by
  have he := Day.next?_number h
  have hlt : d.number < e.number := by omega
  refine ⟨hlt, fun n => ?_⟩
  simp only [Covers]
  omega

theorem previous?_night {d e : Day} (h : d.previous? = some e) :
    e < d ∧ ∀ n, Covers ⟨e, d⟩ n ↔ n = d.number - 1 := by
  have he := Day.previous?_number h
  have hlt : e.number < d.number := by omega
  refine ⟨hlt, fun n => ?_⟩
  simp only [Covers]
  omega

end Period

namespace Query

/-- Whether the night of the day with this number is part of the stay. Without an order of the two days
the arrival alone counts. -/
def Requests (q : Query) (n : Int) : Prop :=
  match q.checkIn, q.checkOut with
  | some a, some b => if a.number < b.number then a.number ≤ n ∧ n < b.number else n = a.number
  | some a, none => n = a.number
  | none, some b => n = b.number - 1
  | none, none => False

/-- Nights are counted between two days in order only. -/
theorem nights?_eq_some {q : Query} {k : Int} :
    q.nights? = some k ↔
      ∃ a b, q.checkIn = some a ∧ q.checkOut = some b ∧ a < b ∧ b.number - a.number = k := by
  unfold nights?
  cases q.checkIn <;> cases q.checkOut <;> simp

/-- A window is not empty, and has the nights that are asked for. -/
theorem window?_spec {q : Query} {w : Period} (h : q.window? = some w) :
    w.start < w.stop ∧ ∀ n, w.Covers n ↔ q.Requests n := by
  unfold window? at h
  unfold Requests
  split at h
  · cases h
  · next a b ha hb =>
    rw [ha, hb]
    split at h
    · next hlt =>
      cases h
      have hlt' : a.number < b.number := hlt
      simp only [if_pos hlt']
      exact ⟨hlt, fun n => Iff.rfl⟩
    · next hge =>
      obtain ⟨e, he, rfl⟩ := Option.map_eq_some_iff.mp h
      have hge' : ¬ a.number < b.number := hge
      simp only [if_neg hge']
      exact Period.next?_night he
  · next a ha hb =>
    rw [ha, hb]
    obtain ⟨e, he, rfl⟩ := Option.map_eq_some_iff.mp h
    exact Period.next?_night he
  · next b ha hb =>
    rw [ha, hb]
    obtain ⟨e, he, rfl⟩ := Option.map_eq_some_iff.mp h
    exact Period.previous?_night he

/-- Without a window, a night that is asked for is one that no period can have. -/
theorem not_covers_of_window?_eq_none {q : Query} (h : q.window? = none) {n : Int}
    (hn : q.Requests n) (p : Period) : ¬ p.Covers n := by
  intro hp
  have hr := hp.inRange
  unfold window? at h
  unfold Requests at hn
  split at h
  · next ha hb => rw [ha, hb] at hn; exact hn
  · next a b ha hb =>
    rw [ha, hb] at hn
    split at h
    · cases h
    · next hge =>
      have hge' : ¬ a.number < b.number := hge
      have he := Day.next?_eq_none (Option.map_eq_none_iff.mp h)
      simp only [if_neg hge'] at hn
      omega
  · next a ha hb =>
    rw [ha, hb] at hn
    have he := Day.next?_eq_none (Option.map_eq_none_iff.mp h)
    dsimp only at hn
    omega
  · next b ha hb =>
    rw [ha, hb] at hn
    have he := Day.previous?_eq_none (Option.map_eq_none_iff.mp h)
    dsimp only at hn
    omega

/-- The window is as good as the nights: a period has a night of the stay exactly if it overlaps the
window. -/
theorem overlaps_window?_iff (q : Query) {p : Period} (hp : p.start < p.stop) :
    (∃ w, q.window? = some w ∧ p.overlaps w = true) ↔ ∃ n, q.Requests n ∧ p.Covers n := by
  cases hw : q.window? with
  | none =>
    constructor
    · rintro ⟨w, h, -⟩
      cases h
    · rintro ⟨n, hn, hc⟩
      exact absurd hc (not_covers_of_window?_eq_none hw hn p)
  | some w =>
    obtain ⟨hlt, hcovers⟩ := window?_spec hw
    have hiff := Period.overlaps_iff_exists_covers hp hlt
    simp only [hcovers] at hiff
    constructor
    · rintro ⟨_, h, ho⟩
      cases h
      obtain ⟨n, hc, hn⟩ := hiff.mp ho
      exact ⟨n, hn, hc⟩
    · rintro ⟨n, hn, hc⟩
      exact ⟨w, rfl, hiff.mpr ⟨n, hc, hn⟩⟩

end Query

end Lodging
