import Lodging.Day.Basic
import Mathlib.Tactic.IntervalCases

/-! # The date of a day

Every number is the number of its date, and the dates that belong to numbers are those of the calendar. A
cycle of 400 years has centuries of 36524 days, runs of four years with 1461 days in them, and years of
365, with a leap day at the end of a run or none. What is left over of each shows which year of the
cycle it is. -/

namespace Lodging

namespace Civil

/-- A day of a cycle is a day of one of its years, and of a leap year if it is the 366th. -/
theorem exists_split {d : Int} (h : 0 ≤ d ∧ d < 146097) : ∃ c q k r : Int,
    d = 36524 * c + 1461 * q + 365 * k + r ∧ (0 ≤ c ∧ c ≤ 3) ∧ (0 ≤ q ∧ q ≤ 24) ∧
      (0 ≤ k ∧ k ≤ 3) ∧ 0 ≤ r ∧ (r ≤ 364 ∨ r = 365 ∧ k = 3 ∧ (q = 24 → c = 3)) := by
  obtain ⟨c, hc⟩ : ∃ c, c = min (d / 36524) 3 := ⟨_, rfl⟩
  obtain ⟨q, hq⟩ : ∃ q, q = (d - 36524 * c) / 1461 := ⟨_, rfl⟩
  obtain ⟨k, hk⟩ : ∃ k, k = min ((d - 36524 * c - 1461 * q) / 365) 3 := ⟨_, rfl⟩
  refine ⟨c, q, k, d - 36524 * c - 1461 * q - 365 * k, by omega, by omega, by omega, by omega,
    by omega, ?_⟩
  omega

/-- The year of the cycle is found from the days alone. -/
theorem year_eq {c q k r d : Int} (hd : d = 36524 * c + 1461 * q + 365 * k + r)
    (hc : 0 ≤ c ∧ c ≤ 3) (hq : 0 ≤ q ∧ q ≤ 24) (hk : 0 ≤ k ∧ k ≤ 3) (hr : 0 ≤ r)
    (hlast : r ≤ 364 ∨ r = 365 ∧ k = 3 ∧ (q = 24 → c = 3)) :
    (d - d / 1460 + d / 36524 - d / 146096) / 365 = 100 * c + 4 * q + k := by
  have hcentury : d / 36524 - d / 146096 = c := by
    by_cases h : 1461 * q + 365 * k + r = 36524
    · have : c = 3 := by omega
      omega
    · have : d / 36524 = c := by omega
      have : d / 146096 = 0 := by omega
      omega
  -- only at the end of a run the days make up one more run of 1460
  have hrun : d / 1460 = 25 * c + q ∧ 24 * c + q + 365 * k + r < 1460 ∨
      d / 1460 = 25 * c + q + 1 ∧ 1460 ≤ 24 * c + q + 365 * k + r := by
    by_cases h : 24 * c + q + 365 * k + r < 1460
    · left; omega
    · right; omega
  omega

theorem exists_year {d : Int} (h : 0 ≤ d ∧ d < 146097) : ∃ y r : Int,
    (d - d / 1460 + d / 36524 - d / 146096) / 365 = y ∧ (0 ≤ y ∧ y < 400) ∧
      d - (365 * y + y / 4 - y / 100) = r ∧ 0 ≤ r ∧
      (r ≤ 364 ∨ r = 365 ∧ isLeap (y + 1) = true) := by
  obtain ⟨c, q, k, r, hd, hc, hq, hk, hr, hlast⟩ := exists_split h
  refine ⟨_, r, year_eq hd hc hq hk hr hlast, by omega, by omega, hr, hlast.imp_right ?_⟩
  rintro ⟨hr365, hk3, hq24⟩
  refine ⟨hr365, ?_⟩
  simp only [isLeap, Bool.and_eq_true, Bool.or_eq_true, beq_iff_eq, bne_iff_ne]
  omega

/-- The date of a number by the year of the cycle and the day in it. -/
theorem exists_ofNumber (n : Int) : ∃ y r : Int, n = 146097 * (n / 146097) +
      (365 * y + y / 4 - y / 100) + r ∧ (0 ≤ y ∧ y < 400) ∧ 0 ≤ r ∧
      (r ≤ 364 ∨ r = 365 ∧ isLeap (y + 1) = true) ∧
    ofNumber n =
      if (5 * r + 2) / 153 < 10 then
        ⟨y + 400 * (n / 146097), (5 * r + 2) / 153 + 3, r - (153 * ((5 * r + 2) / 153) + 2) / 5 + 1⟩
      else
        ⟨y + 400 * (n / 146097) + 1, (5 * r + 2) / 153 - 9,
          r - (153 * ((5 * r + 2) / 153) + 2) / 5 + 1⟩ := by
  obtain ⟨y, r, hy, hbounds, hday, hr, hlast⟩ :=
    exists_year (d := n % 146097) ⟨by omega, by omega⟩
  refine ⟨y, r, by omega, hbounds, hr, hlast, ?_⟩
  unfold ofNumber
  simp only [hy, hday]

theorem number_ofNumber (n : Int) : (ofNumber n).number = n := by
  obtain ⟨y, r, hn, hy, hr, hlast, hdate⟩ := exists_ofNumber n
  have hmonth : 0 ≤ (5 * r + 2) / 153 ∧ (5 * r + 2) / 153 ≤ 11 := by omega
  have hyear : ∀ e, 365 * (y + 400 * e) + (y + 400 * e) / 4 - (y + 400 * e) / 100 +
      (y + 400 * e) / 400 = 146097 * e + (365 * y + y / 4 - y / 100) := fun e => by
    have h4 : (y + 400 * e) / 4 = y / 4 + 100 * e := by omega
    have h100 : (y + 400 * e) / 100 = y / 100 + 4 * e := by omega
    have h400 : (y + 400 * e) / 400 = e := by omega
    omega
  rw [hdate]
  generalize (5 * r + 2) / 153 = m at hmonth ⊢
  split
  · have h3 : ¬ m + 3 ≤ 2 := by omega
    simp only [number, if_neg h3]
    rw [hyear, show m + 3 - 3 = m by omega]
    omega
  · have h2 : m - 9 ≤ 2 := by omega
    simp only [number, if_pos h2]
    rw [show y + 400 * (n / 146097) + 1 - 1 = y + 400 * (n / 146097) by omega, hyear,
      show m - 9 + 9 = m by omega]
    omega

theorem isLeap_add (y e : Int) : isLeap (y + 400 * e) = isLeap y := by
  have h4 : (y + 400 * e) % 4 = y % 4 := by omega
  have h100 : (y + 400 * e) % 100 = y % 100 := by omega
  have h400 : (y + 400 * e) % 400 = y % 400 := by omega
  simp only [isLeap, h4, h100, h400]

theorem daysIn_le (year month : Int) : daysIn year month ≤ 31 := by
  unfold daysIn
  split
  · split <;> decide
  · split <;> decide

/-- Counted from March, a month begins after the days of the months before it. -/
theorem daysIn_eq (year : Int) {m : Int} (hm : 0 ≤ m ∧ m ≤ 9) :
    (153 * (m + 1) + 2) / 5 - (153 * m + 2) / 5 = daysIn year (m + 3) := by
  obtain ⟨h0, h9⟩ := hm
  interval_cases m <;> rfl

theorem exists?_ofNumber (n : Int) : (ofNumber n).exists? = true := by
  obtain ⟨y, r, -, -, hr, hlast, hdate⟩ := exists_ofNumber n
  have hleap : r = 365 → isLeap (y + 400 * (n / 146097) + 1) = true := fun h => by
    rw [show y + 400 * (n / 146097) + 1 = y + 1 + 400 * (n / 146097) by omega, isLeap_add]
    exact (hlast.resolve_left (by omega)).2
  have hmonth : 0 ≤ (5 * r + 2) / 153 ∧ (5 * r + 2) / 153 ≤ 11 := by omega
  rw [hdate]
  generalize y + 400 * (n / 146097) = year at hleap ⊢
  simp only [exists?]
  split
  · next hm =>
    have hdays := daysIn_eq year (m := (5 * r + 2) / 153) (by omega)
    simp only [Bool.and_eq_true, decide_eq_true_eq]
    omega
  · next hm =>
    simp only [Bool.and_eq_true, decide_eq_true_eq]
    obtain hm | hm : (5 * r + 2) / 153 = 10 ∨ (5 * r + 2) / 153 = 11 := by omega
    · have hdays : daysIn (year + 1) 1 = 31 := rfl
      rw [hm, show (10 - 9 : Int) = 1 from rfl, hdays]
      omega
    · have hdays : daysIn (year + 1) 2 = if isLeap (year + 1) then 29 else 28 := rfl
      rw [hm, show (11 - 9 : Int) = 2 from rfl, hdays]
      by_cases h365 : r = 365
      · rw [if_pos (hleap h365)]
        omega
      · split <;> omega

/-! ## Dates by their numbers -/

/-- The days before a year that begins in March. -/
def daysBefore (year : Int) : Int := 365 * year + year / 4 - year / 100 + year / 400

theorem daysBefore_succ (y : Int) :
    daysBefore (y + 1) = daysBefore y + if isLeap (y + 1) = true then 366 else 365 := by
  simp only [isLeap, Bool.and_eq_true, Bool.or_eq_true, beq_iff_eq, bne_iff_ne, daysBefore]
  split <;> omega

theorem daysBefore_mono {y y' : Int} (h : y ≤ y') : daysBefore y ≤ daysBefore y' := by
  obtain ⟨k, rfl⟩ := Int.le.dest h
  unfold daysBefore
  omega

/-- The year that begins in March has a day with this number, counted from zero. -/
def HasDay (y r : Int) : Prop := 0 ≤ r ∧ (r ≤ 364 ∨ r = 365 ∧ isLeap (y + 1) = true)

theorem HasDay.lt_succ {y r : Int} (h : HasDay y r) : daysBefore y + r < daysBefore (y + 1) := by
  rw [daysBefore_succ]
  rcases h.2 with h364 | ⟨rfl, hleap⟩
  · split <;> omega
  · rw [if_pos hleap]
    omega

/-- Different days of such years have different numbers. -/
theorem HasDay.unique {y y' r r' : Int} (h : HasDay y r) (h' : HasDay y' r')
    (heq : daysBefore y + r = daysBefore y' + r') : y = y' ∧ r = r' := by
  have hbefore : ∀ {y y' r r'}, HasDay y r → HasDay y' r' →
      daysBefore y + r = daysBefore y' + r' → y' ≤ y := by
    intro y y' r r' h h' heq
    by_contra hlt
    have hnext := h.lt_succ
    have hmono : daysBefore (y + 1) ≤ daysBefore y' := daysBefore_mono (by omega)
    have hpos := h'.1
    omega
  obtain rfl : y = y' := Int.le_antisymm (hbefore h' h heq.symm) (hbefore h h' heq)
  exact ⟨rfl, by omega⟩

def ofMarch (y r : Int) : Civil :=
  if (5 * r + 2) / 153 < 10 then
    ⟨y, (5 * r + 2) / 153 + 3, r - (153 * ((5 * r + 2) / 153) + 2) / 5 + 1⟩
  else ⟨y + 1, (5 * r + 2) / 153 - 9, r - (153 * ((5 * r + 2) / 153) + 2) / 5 + 1⟩

theorem exists_ofMarch_ofNumber (n : Int) :
    ∃ y r, HasDay y r ∧ n = daysBefore y + r ∧ ofNumber n = ofMarch y r := by
  obtain ⟨y, r, hn, hy, hr, hlast, hdate⟩ := exists_ofNumber n
  refine ⟨y + 400 * (n / 146097), r, ⟨hr, hlast.imp_right fun h => ⟨h.1, ?_⟩⟩, ?_, hdate⟩
  · rw [show y + 400 * (n / 146097) + 1 = y + 1 + 400 * (n / 146097) by omega, isLeap_add]
    exact h.2
  · unfold daysBefore
    omega

/-- A month, counted from March, is found from a day in it. -/
theorem month_eq {m r day : Int} (hr : r = (153 * m + 2) / 5 + day - 1) (hday : 1 ≤ day)
    (hlast : (153 * m + 2) / 5 + day ≤ (153 * (m + 1) + 2) / 5) : (5 * r + 2) / 153 = m := by
  omega

theorem exists_ofMarch {c : Civil} (h : c.exists? = true) :
    ∃ y r, HasDay y r ∧ c.number = daysBefore y + r ∧ c = ofMarch y r := by
  obtain ⟨year, month, day⟩ := c
  simp only [exists?, Bool.and_eq_true, decide_eq_true_eq] at h
  obtain ⟨⟨⟨h1, h12⟩, hday⟩, hlast⟩ := h
  by_cases hm : month ≤ 2
  · have hin : HasDay (year - 1) ((153 * (month + 9) + 2) / 5 + day - 1) ∧
        (153 * (month + 9) + 2) / 5 + day ≤ (153 * (month + 9 + 1) + 2) / 5 := by
      rw [HasDay, Int.sub_add_cancel]
      obtain rfl | rfl : month = 1 ∨ month = 2 := by omega
      · have hdays : daysIn year 1 = 31 := rfl
        omega
      · have hdays : daysIn year 2 = if isLeap year then 29 else 28 := rfl
        split at hdays
        · next hleap =>
          rw [and_iff_left hleap]
          omega
        · omega
    refine ⟨year - 1, (153 * (month + 9) + 2) / 5 + day - 1, hin.1, ?_, ?_⟩
    · simp only [number, if_pos hm, daysBefore]
      omega
    · rw [ofMarch, month_eq rfl hday hin.2, if_neg (by omega), Civil.mk.injEq]
      omega
  · have hdays := daysIn_eq year (m := month - 3) (by omega)
    rw [show month - 3 + 3 = month by omega] at hdays
    refine ⟨year, (153 * (month - 3) + 2) / 5 + day - 1, ⟨by omega, .inl (by omega)⟩, ?_, ?_⟩
    · simp only [number, if_neg hm, daysBefore]
      omega
    · rw [ofMarch, month_eq rfl hday (by omega), if_pos (by omega), Civil.mk.injEq]
      omega

theorem ofNumber_number {c : Civil} (h : c.exists? = true) : ofNumber c.number = c := by
  obtain ⟨y, r, hday, hnumber, hc⟩ := exists_ofMarch h
  obtain ⟨y', r', hday', hnumber', hdate⟩ := exists_ofMarch_ofNumber c.number
  obtain ⟨rfl, rfl⟩ := hday.unique hday' (hnumber.symm.trans hnumber')
  rw [hdate, ← hc]

end Civil

namespace Day

/-- The day with the date of a day is that day. -/
theorem ofCivil?_civil (d : Day) : ofCivil? d.civil = some d := by
  rw [ofCivil?, civil, if_pos (Civil.exists?_ofNumber d.number), Civil.number_ofNumber,
    ofNumber?_number]

/-- The day with a date has that date. -/
theorem civil_of_ofCivil? {c : Civil} {d : Day} (h : ofCivil? c = some d) : d.civil = c := by
  unfold ofCivil? at h
  split at h
  · next hc => rw [civil, number_of_ofNumber? h, Civil.ofNumber_number hc]
  · cases h

/-- Every date of the years 0 to 9999 that the calendar has is that of a day. -/
theorem exists_civil_iff {c : Civil} (hyear : 0 ≤ c.year ∧ c.year ≤ 9999) :
    (∃ d : Day, d.civil = c) ↔ c.exists? = true := by
  constructor
  · rintro ⟨d, rfl⟩
    exact Civil.exists?_ofNumber d.number
  · intro h
    have hexists := h
    simp only [Civil.exists?, Bool.and_eq_true, decide_eq_true_eq] at hexists
    have hlast := Civil.daysIn_le c.year c.month
    have hrange : -95745824 ≤ c.number ∧ c.number ≤ 95745704 := by
      unfold Civil.number
      dsimp only
      split <;> omega
    exact ⟨⟨c.number, hrange⟩, Civil.ofNumber_number h⟩

end Day

end Lodging
