/-!
# Days

A day of the proleptic Gregorian calendar is its number, counted from 1 March of the year 0. A year
that begins in March has its leap day at its end, so the number of a day is a sum of whole divisions.
Days reach from 1 January of the year -262143 to 31 December of the year 262142.
-/

namespace Lodging

/-- Year, month and day of the month. -/
structure Civil where
  year : Int
  month : Int
  day : Int
  deriving DecidableEq, Repr

def isLeap (year : Int) : Bool := year % 4 == 0 && (year % 100 != 0 || year % 400 == 0)

def daysIn (year month : Int) : Int :=
  if month = 2 then if isLeap year then 29 else 28
  else if month = 4 ∨ month = 6 ∨ month = 9 ∨ month = 11 then 30
  else 31

def Civil.exists? (c : Civil) : Bool :=
  1 ≤ c.month && c.month ≤ 12 && 1 ≤ c.day && c.day ≤ daysIn c.year c.month

/-- The number of a day. Months are counted from March, so that January and February belong to the
year before. -/
def Civil.number (c : Civil) : Int :=
  let year := if c.month ≤ 2 then c.year - 1 else c.year
  let month := if c.month ≤ 2 then c.month + 9 else c.month - 3
  365 * year + year / 4 - year / 100 + year / 400 + (153 * month + 2) / 5 + c.day - 1

/-- The day with a number. A cycle of 400 years has 146097 days. -/
def Civil.ofNumber (n : Int) : Civil :=
  let inCycle := n % 146097
  let ofCycle := (inCycle - inCycle / 1460 + inCycle / 36524 - inCycle / 146096) / 365
  let inYear := inCycle - (365 * ofCycle + ofCycle / 4 - ofCycle / 100)
  let month := (5 * inYear + 2) / 153
  let day := inYear - (153 * month + 2) / 5 + 1
  let year := ofCycle + 400 * (n / 146097)
  if month < 10 then ⟨year, month + 3, day⟩ else ⟨year + 1, month - 9, day⟩

namespace Day

def lowest : Int := Civil.number ⟨-262143, 1, 1⟩

def highest : Int := Civil.number ⟨262142, 12, 31⟩

end Day

structure Day where
  number : Int
  inRange : Day.lowest ≤ number ∧ number ≤ Day.highest
  deriving DecidableEq

namespace Day

instance : LT Day := ⟨fun a b => a.number < b.number⟩
instance : LE Day := ⟨fun a b => a.number ≤ b.number⟩
instance (a b : Day) : Decidable (a < b) := inferInstanceAs (Decidable (a.number < b.number))
instance (a b : Day) : Decidable (a ≤ b) := inferInstanceAs (Decidable (a.number ≤ b.number))

theorem ext_number {a b : Day} (h : a.number = b.number) : a = b := by
  cases a; cases b; simp_all

def ofNumber? (n : Int) : Option Day :=
  if h : lowest ≤ n ∧ n ≤ highest then some ⟨n, h⟩ else none

/-- The day with this date, if the calendar has one and it is in range. -/
def ofCivil? (c : Civil) : Option Day :=
  if c.exists? then ofNumber? c.number else none

def civil (d : Day) : Civil := Civil.ofNumber d.number

/-- The day after; the last day has none. -/
def next? (d : Day) : Option Day := ofNumber? (d.number + 1)

/-- The day before; the first day has none. -/
def previous? (d : Day) : Option Day := ofNumber? (d.number - 1)

theorem number_of_ofNumber? {n : Int} {d : Day} (h : ofNumber? n = some d) : d.number = n := by
  unfold ofNumber? at h
  split at h
  · simp only [Option.some.injEq] at h; simp [← h]
  · simp at h

theorem ofNumber?_number (d : Day) : ofNumber? d.number = some d := by
  simp [ofNumber?, d.inRange]

theorem next?_number {d e : Day} (h : d.next? = some e) : e.number = d.number + 1 :=
  number_of_ofNumber? h

theorem previous?_number {d e : Day} (h : d.previous? = some e) : e.number = d.number - 1 :=
  number_of_ofNumber? h

end Day

end Lodging
