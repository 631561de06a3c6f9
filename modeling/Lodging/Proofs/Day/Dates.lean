import Lodging.Day.Period
import Lodging.Proofs.Day.Writing

/-! # Dates read back

The date of every day is read as that day, also in the years that have a sign. A signed year may have any
number of digits, so it is the dash after it that ends it. -/

namespace Lodging.Day

open Decimal (digit? digits padded)

/-! ## Years -/

def EndsNumber (s : List Char) : Prop := ∀ c ∈ s.head?, digit? c = none

theorem moreDigits_of_endsNumber {s : List Char} (h : EndsNumber s) (limit n : Nat) :
    moreDigits limit n s = (n, s) := by
  cases limit with
  | zero => rfl
  | succ limit =>
    cases s with
    | nil => rfl
    | cons c s => rw [moreDigits, h c rfl]

/-- A number that is not cut off is read up to its end. -/
theorem numberUpTo_of_length_le {w n limit : Nat} (hlen : (padded w n).length ≤ limit) {s : List Char}
    (hs : EndsNumber s) : numberUpTo limit (padded w n ++ s) = .ok (n, s) := by
  have hread : moreDigits limit 0 (padded w n ++ s) = (n, s) := by
    obtain ⟨k, hdigits, hmore⟩ := moreDigits_digitsOnto n []
    have hk : (digits n).length = k := hdigits
    rw [padded, List.length_append, List.length_replicate, hk] at hlen
    obtain ⟨spare, rfl⟩ := Nat.exists_eq_add_of_le hlen
    rw [padded, hk, List.append_assoc, Nat.add_assoc, moreDigits_zeros]
    exact (hmore spare s).trans (moreDigits_of_endsNumber hs spare n)
  have hne : padded w n ≠ [] := List.append_ne_nil_of_right_ne_nil _ (Decimal.digits_ne_nil n)
  obtain ⟨c, rest, hp⟩ := List.exists_cons_of_ne_nil hne
  have hc : c.isDigit = true := Decimal.isDigit_of_mem_padded (hp ▸ List.mem_cons_self)
  rw [hp] at hread ⊢
  rw [List.cons_append] at hread ⊢
  rw [numberUpTo, if_neg (by simp [digit?, hc]), hread]

/-- A signed year goes on as long as there are digits. -/
theorem year_minus {r s : List Char} {n : Nat} (h : numberUpTo r.length r = .ok (n, s))
    (hy : Decimal.int32.contains (-(n : Int)) = true) : year ('-' :: r) = .ok (-(n : Int), s) := by
  have htrim : Text.trimStart ('-' :: r) = '-' :: r := rfl
  simp only [year, htrim, h, Except.map]
  exact if_pos hy

theorem year_plus {r s : List Char} {n : Nat} (h : numberUpTo r.length r = .ok (n, s))
    (hy : Decimal.int32.contains (n : Int) = true) : year ('+' :: r) = .ok ((n : Int), s) := by
  have htrim : Text.trimStart ('+' :: r) = '+' :: r := rfl
  simp only [year, htrim, h, Except.map]
  exact if_pos hy

theorem year_yearText {y : Int} (hy : Decimal.int32.contains y = true) {s : List Char}
    (hs : EndsNumber s) :
    year (yearText y ++ s) = .ok (y, s) := by
  have hsigned : ∀ n, numberUpTo (padded 4 n ++ s).length (padded 4 n ++ s) = .ok (n, s) := fun n =>
    numberUpTo_of_length_le (by rw [List.length_append]; omega) hs
  unfold yearText
  split
  · next h =>
    obtain ⟨n, rfl⟩ := Int.eq_ofNat_of_zero_le h.1
    exact year_padded (by omega) s
  · split
    · next h =>
      obtain ⟨n, rfl⟩ : ∃ n : Nat, y = -(n : Int) := ⟨(-y).toNat, by omega⟩
      rw [show (-(-(n : Int))).toNat = n by omega]
      exact year_minus (hsigned n) hy
    · next h =>
      obtain ⟨n, rfl⟩ := Int.eq_ofNat_of_zero_le (Int.not_lt.mp h)
      exact year_plus (hsigned n) hy

/-- Years fit into 32 bits. -/
theorem contains_year (d : Day) : Decimal.int32.contains d.civil.year = true := by
  obtain ⟨⟨hm1, hm⟩, hd1, hday⟩ := d.civil_bounds
  have hnumber : d.civil.number = d.number := Civil.number_ofNumber d.number
  have hlow : (-95745824 : Int) ≤ d.number := d.inRange.1
  have hhigh : d.number ≤ 95745704 := d.inRange.2
  have hyear : -2147483648 ≤ d.civil.year ∧ d.civil.year ≤ 2147483647 := by
    unfold Civil.number at hnumber
    dsimp only at hnumber
    split at hnumber <;> omega
  simp [Decimal.Bounds.contains, Decimal.int32, hyear]

/-! ## Dates -/

theorem dash_cons (s : List Char) : dash ('-' :: s) = .ok s := rfl

theorem endsNumber_dash (s : List Char) : EndsNumber ('-' :: s) := by
  intro c hc
  obtain rfl : '-' = c := Option.some.inj hc
  rfl

/-- The date of a day is read as that day. -/
theorem read_chars (d : Day) : read d.chars = .ok d := by
  obtain ⟨⟨hm1, hm⟩, hd1, hday⟩ := d.civil_bounds
  have hdate : ofCivil? ⟨d.civil.year, (d.civil.month.toNat : Int), (d.civil.day.toNat : Int)⟩ =
      some d := by
    rw [Int.toNat_of_nonneg (by omega), Int.toNat_of_nonneg (by omega)]
    exact d.ofCivil?_civil
  have hchars : d.chars = yearText d.civil.year ++
      '-' :: (padded 2 d.civil.month.toNat ++ '-' :: (padded 2 d.civil.day.toNat ++ [])) := by
    rw [chars, List.append_nil, List.append_assoc]
    rfl
  have hyear : ∀ s, year (yearText d.civil.year ++ '-' :: s) = .ok (d.civil.year, '-' :: s) := fun s =>
    year_yearText d.contains_year (endsNumber_dash s)
  have hmonth : ∀ s, boundedNumber 2 1 12 (padded 2 d.civil.month.toNat ++ s) =
      .ok (d.civil.month.toNat, s) :=
    boundedNumber_padded (by decide) (by omega) (by omega) (by omega)
  have hlast : ∀ s, boundedNumber 2 1 31 (padded 2 d.civil.day.toNat ++ s) =
      .ok (d.civil.day.toNat, s) :=
    boundedNumber_padded (by decide) (by omega) (by omega) (by omega)
  simp only [read, hchars, hyear, hmonth, hlast, dash_cons, bind, Except.bind]
  show finish _ _ _ [] = _
  unfold finish
  rw [hdate]

theorem ofJson?_toJson (d : Day) : ofJson? d.toJson = some d := by
  rw [toJson, ofJson?, text, String.toList_ofList, read_chars]
  rfl

end Lodging.Day
