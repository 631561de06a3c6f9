import Lodging.Proofs.Day.Civil
import Lodging.Proofs.Day.Stamp
import Lodging.Proofs.Decimal.Whole
import Lodging.Proofs.Text.Blank

/-! # Stamps read back

The stamp of a day of the years 0 to 9999 is its date in eight digits. A run of digits of known length
is read as one number, whatever stands behind it, so year, month and day are found where they were
written. -/

namespace Lodging

namespace Decimal

theorem length_digitsOnto_le {w n : Nat} (hw : 0 < w) (h : n < 10 ^ w) (acc : List Char) :
    (digitsOnto n acc).length ≤ w + acc.length := by
  induction n using Nat.strongRecOn generalizing w acc with
  | ind n ih =>
    unfold digitsOnto
    split
    · rw [List.length_cons]
      omega
    · next hn =>
      obtain ⟨v, rfl⟩ : ∃ v, w = v + 1 := ⟨w - 1, by omega⟩
      have hpow : n < 10 ^ v * 10 := h
      have hv : 0 < v := by
        by_contra hv
        obtain rfl : v = 0 := by omega
        omega
      have hrec := ih (n / 10) (by omega) hv (by omega) (digitChar (n % 10) :: acc)
      rw [List.length_cons] at hrec
      omega

theorem length_padded {w n : Nat} (hw : 0 < w) (h : n < 10 ^ w) : (padded w n).length = w := by
  have hlen := length_digitsOnto_le hw h []
  have hdigits : (digits n).length ≤ w := hlen
  rw [padded, List.length_append, List.length_replicate]
  omega

theorem isDigit_of_mem_padded {c : Char} {w n : Nat} (h : c ∈ padded w n) : c.isDigit = true := by
  rcases List.mem_append.mp h with h | h
  · rw [List.eq_of_mem_replicate h]
    rfl
  · exact isDigit_of_mem_digits h

end Decimal

namespace Day

open Decimal (digits digitsOnto padded)

/-! ## Numbers -/

theorem moreDigits_zeros (k limit : Nat) (s : List Char) :
    moreDigits (k + limit) 0 (List.replicate k '0' ++ s) = moreDigits limit 0 s := by
  induction k with
  | zero => rw [Nat.zero_add]; rfl
  | succ k ih => rw [Nat.succ_add]; exact ih

theorem moreDigits_digitsOnto (n : Nat) (acc : List Char) : ∃ k,
    (digitsOnto n acc).length = k + acc.length ∧ ∀ limit s,
      moreDigits (k + limit) 0 (digitsOnto n acc ++ s) = moreDigits limit n (acc ++ s) := by
  induction n using Nat.strongRecOn generalizing acc with
  | ind n ih =>
    unfold digitsOnto
    split
    · next hn =>
      refine ⟨1, by rw [List.length_cons, Nat.add_comm], fun limit s => ?_⟩
      rw [List.cons_append, Nat.add_comm, moreDigits, Decimal.digit?_digitChar n hn]
      simp
    · next hn =>
      obtain ⟨k, hlen, hread⟩ := ih (n / 10) (by omega) (Decimal.digitChar (n % 10) :: acc)
      refine ⟨k + 1, by rw [hlen, List.length_cons]; omega, fun limit s => ?_⟩
      rw [Nat.add_assoc, Nat.add_comm 1, hread, List.cons_append, moreDigits,
        Decimal.digit?_digitChar (n % 10) (Nat.mod_lt n (by decide))]
      dsimp only
      rw [show n / 10 * 10 + n % 10 = n by omega]

/-- A number that is filled up to its width is read whatever follows it. -/
theorem moreDigits_padded {w n : Nat} (hw : 0 < w) (h : n < 10 ^ w) (s : List Char) :
    moreDigits w 0 (padded w n ++ s) = (n, s) := by
  obtain ⟨k, hlen, hread⟩ := moreDigits_digitsOnto n []
  have hdigits : (digits n).length = k := hlen
  have hle : k ≤ w := hdigits ▸ Decimal.length_digitsOnto_le hw h []
  have hzeros := moreDigits_zeros (w - k) k (digits n ++ s)
  rw [Nat.sub_add_cancel hle] at hzeros
  rw [padded, hdigits, List.append_assoc, hzeros]
  exact hread 0 s

/-- A number of some width begins with a digit. -/
theorem exists_padded_eq {w n : Nat} (hw : 0 < w) (h : n < 10 ^ w) :
    ∃ c rest, padded w n = c :: rest ∧ c.isDigit = true := by
  cases hp : padded w n with
  | nil =>
    have hlen := Decimal.length_padded hw h
    rw [hp] at hlen
    exact absurd hlen.symm (Nat.ne_of_gt hw)
  | cons c rest => exact ⟨c, rest, rfl, Decimal.isDigit_of_mem_padded (hp ▸ List.mem_cons_self)⟩

theorem trimStart_padded {w n : Nat} (hw : 0 < w) (h : n < 10 ^ w) (s : List Char) :
    Text.trimStart (padded w n ++ s) = padded w n ++ s := by
  obtain ⟨c, rest, hp, hc⟩ := exists_padded_eq hw h
  rw [hp]
  exact Text.dropWhile_eq_self_of_head (by simpa using Text.isBlank_of_isDigit hc)

theorem numberUpTo_padded {w n : Nat} (hw : 0 < w) (h : n < 10 ^ w) (s : List Char) :
    numberUpTo w (padded w n ++ s) = .ok (n, s) := by
  have hread := moreDigits_padded hw h s
  obtain ⟨c, rest, hp, hc⟩ := exists_padded_eq hw h
  rw [hp] at hread ⊢
  rw [List.cons_append] at hread ⊢
  rw [numberUpTo, if_neg (by simp [Decimal.digit?, hc]), hread]

theorem boundedNumber_padded {w n low high : Nat} (hw : 0 < w) (h : n < 10 ^ w) (hlow : low ≤ n)
    (hhigh : n ≤ high) (s : List Char) :
    boundedNumber w low high (padded w n ++ s) = .ok (n, s) := by
  rw [boundedNumber, trimStart_padded hw h, numberUpTo_padded hw h]
  show (if low ≤ n ∧ n ≤ high then _ else _) = _
  rw [if_pos ⟨hlow, hhigh⟩]
  rfl

theorem year_padded {n : Nat} (h : n < 10 ^ 4) (s : List Char) :
    year (padded 4 n ++ s) = .ok ((n : Int), s) := by
  have hread := numberUpTo_padded (by decide) h s
  have htrim := trimStart_padded (by decide) h s
  obtain ⟨c, rest, hp, hc⟩ := exists_padded_eq (by decide) h
  rw [hp, List.cons_append] at hread htrim ⊢
  have hsign : c ≠ '-' ∧ c ≠ '+' := by
    constructor <;> rintro rfl <;> cases hc
  rw [year, htrim]
  split
  · next r he => exact absurd (List.cons.inj he).1 hsign.1
  · next r he => exact absurd (List.cons.inj he).1 hsign.2
  · rw [hread]
    show (if Decimal.int32.contains (n : Int) = true then _ else _) = _
    rw [if_pos]
    · rfl
    · have hlow : (-2147483648 : Int) ≤ n := by omega
      have hhigh : (n : Int) ≤ 2147483647 := by omega
      simp [Decimal.Bounds.contains, Decimal.int32, hlow, hhigh]

/-! ## Stamps -/

def FourDigits (d : Day) : Prop := 0 ≤ d.civil.year ∧ d.civil.year ≤ 9999

instance (d : Day) : Decidable d.FourDigits :=
  inferInstanceAs (Decidable (0 ≤ d.civil.year ∧ d.civil.year ≤ 9999))

/-- The date without dashes, in eight digits. -/
def stamp (d : Day) : List Char :=
  padded 4 d.civil.year.toNat ++ (padded 2 d.civil.month.toNat ++ padded 2 d.civil.day.toNat)

/-- The numbers of a date that the calendar has. -/
theorem civil_bounds (d : Day) : (1 ≤ d.civil.month ∧ d.civil.month ≤ 12) ∧
    1 ≤ d.civil.day ∧ d.civil.day ≤ 31 := by
  have h := Civil.exists?_ofNumber d.number
  have hlast := Civil.daysIn_le d.civil.year d.civil.month
  simp only [Civil.exists?, Bool.and_eq_true, decide_eq_true_eq] at h
  obtain ⟨⟨⟨h1, h12⟩, h1'⟩, hle⟩ := h
  exact ⟨⟨h1, h12⟩, h1', Int.le_trans hle hlast⟩

theorem isDigit_of_mem_stamp {c : Char} {d : Day} (h : c ∈ d.stamp) : c.isDigit = true := by
  simp only [stamp, List.mem_append] at h
  rcases h with h | h | h <;> exact Decimal.isDigit_of_mem_padded h

theorem length_stamp {d : Day} (hd : d.FourDigits) : d.stamp.length = 8 := by
  obtain ⟨⟨hm1, hm⟩, hd1, hday⟩ := d.civil_bounds
  have hyear := hd.2
  rw [stamp, List.length_append, List.length_append, Decimal.length_padded (by decide) (by omega),
    Decimal.length_padded (by decide) (by omega), Decimal.length_padded (by decide) (by omega)]

/-- The stamp of a day is read as that day. -/
theorem readStamp_stamp {d : Day} (hd : d.FourDigits) : readStamp d.stamp = .ok d := by
  obtain ⟨⟨hm1, hm⟩, hd1, hday⟩ := d.civil_bounds
  obtain ⟨hyear0, hyear⟩ := hd
  have hdate : ofCivil? ⟨(d.civil.year.toNat : Int), (d.civil.month.toNat : Int),
      (d.civil.day.toNat : Int)⟩ = some d := by
    rw [Int.toNat_of_nonneg hyear0, Int.toNat_of_nonneg (by omega), Int.toNat_of_nonneg (by omega)]
    exact d.ofCivil?_civil
  have hlast : boundedNumber 2 1 31 (padded 2 d.civil.day.toNat ++ []) =
      .ok (d.civil.day.toNat, []) :=
    boundedNumber_padded (by decide) (by omega) (by omega) (by omega) []
  rw [List.append_nil] at hlast
  rw [readStamp, stamp, year_padded (by omega)]
  show (boundedNumber 2 1 12 _ >>= _) = _
  rw [boundedNumber_padded (by decide) (by omega) (by omega) (by omega)]
  show (boundedNumber 2 1 31 _ >>= _) = _
  rw [hlast]
  show finish _ _ _ [] = _
  unfold finish
  rw [hdate]

end Day

namespace Calendar

theorem utf8Size_of_isDigit {c : Char} (h : c.isDigit = true) : c.utf8Size = 1 := by
  have hc : c.val ≤ '9'.val := (by simpa [Char.isDigit] using h : _ ∧ _).2
  rw [Char.utf8Size_eq_one_iff]
  exact UInt32.le_trans hc (by decide)

theorem takeBytes_append {s : List Char} (h : ∀ c ∈ s, c.utf8Size = 1) (t : List Char) :
    takeBytes s.length (s ++ t) = some s := by
  induction s with
  | nil => cases t <;> rfl
  | cons c s ih =>
    have hc := h c List.mem_cons_self
    rw [List.length_cons, List.cons_append, takeBytes, hc, if_pos (by omega), Nat.add_sub_cancel,
      ih fun d hd => h d (List.mem_cons_of_mem _ hd)]
    rfl

/-- The stamp of a day is found in front of a time. -/
theorem stampDay?_stamp {d : Day} (hd : d.FourDigits) (t : List Char) :
    stampDay? (d.stamp ++ t) = some d := by
  have htake := takeBytes_append (s := d.stamp)
    (fun c hc => utf8Size_of_isDigit (Day.isDigit_of_mem_stamp hc)) t
  rw [Day.length_stamp hd] at htake
  rw [stampDay?, htake, Option.bind_some, Day.readStamp_stamp hd]
  rfl

end Calendar

end Lodging
