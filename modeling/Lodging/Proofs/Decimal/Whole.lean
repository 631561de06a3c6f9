import Lodging.Decimal.Whole

/-! # Whole numbers read back

The digits that are written for a number are read as that number as long as it stays in its bounds, so
different numbers are written differently. -/

namespace Lodging.Decimal

theorem digit?_digitChar : ∀ d < 10, digit? (digitChar d) = some d := by decide

/-- Reading the digits of a number comes to the number, and goes on with what follows them. -/
theorem readUp_digitsOnto {high : Int} {n : Nat} (h : (n : Int) ≤ high) (acc : List Char) :
    readUp high 0 (digitsOnto n acc) = readUp high n acc := by
  induction n using Nat.strongRecOn generalizing acc with
  | ind n ih =>
    unfold digitsOnto
    split
    · next hn =>
      simp only [readUp, digit?_digitChar n hn, Int.zero_mul, Int.zero_add]
      rw [if_neg (by omega)]
    · next hn =>
      have hdiv : n / 10 < n := by omega
      have hvalue : ((n / 10 : Nat) : Int) * 10 + ((n % 10 : Nat) : Int) = n := by omega
      rw [ih (n / 10) hdiv (by omega)]
      simp only [readUp, digit?_digitChar (n % 10) (Nat.mod_lt n (by decide)), hvalue]
      rw [if_neg (by omega)]

theorem readUp_digits {high : Int} {n : Nat} (h : (n : Int) ≤ high) :
    readUp high 0 (digits n) = .ok n :=
  readUp_digitsOnto h []

theorem digits_inj {m n : Nat} (h : digits m = digits n) : m = n := by
  have hm : readUp (max m n : Nat) 0 (digits m) = .ok m := readUp_digits (by omega)
  have hn : readUp (max m n : Nat) 0 (digits n) = .ok n := readUp_digits (by omega)
  rw [h, hn] at hm
  exact (Int.ofNat.inj (Except.ok.inj hm)).symm

/-- Digits begin with no sign. -/
theorem digits_ne_minus (n : Nat) (s : List Char) : digits n ≠ '-' :: s := by
  intro h
  have hread := readUp_digits (Int.le_refl (n : Int))
  rw [h] at hread
  cases hread

theorem isDigit_digitChar : ∀ d < 10, (digitChar d).isDigit = true := by decide

theorem isDigit_of_mem_digitsOnto {c : Char} {n : Nat} {acc : List Char}
    (hacc : ∀ a ∈ acc, a.isDigit = true) (h : c ∈ digitsOnto n acc) : c.isDigit = true := by
  induction n using Nat.strongRecOn generalizing acc with
  | ind n ih =>
    unfold digitsOnto at h
    split at h
    · next hn =>
      rcases List.mem_cons.mp h with rfl | h
      · exact isDigit_digitChar n hn
      · exact hacc c h
    · next hn =>
      refine ih (n / 10) (by omega) ?_ h
      intro a ha
      rcases List.mem_cons.mp ha with rfl | ha
      · exact isDigit_digitChar (n % 10) (Nat.mod_lt n (by decide))
      · exact hacc a ha

theorem isDigit_of_mem_digits {c : Char} {n : Nat} (h : c ∈ digits n) : c.isDigit = true :=
  isDigit_of_mem_digitsOnto (by simp) h

/-- A number has only digits and a sign in it. -/
theorem mem_signed {c : Char} {i : Int} (h : c ∈ signed i) : c = '-' ∨ c.isDigit = true := by
  cases i with
  | ofNat n => exact .inr (isDigit_of_mem_digits h)
  | negSucc n => exact (List.mem_cons.mp h).imp id isDigit_of_mem_digits

theorem digits_ne_nil (n : Nat) : digits n ≠ [] := by
  intro h
  have hread := readUp_digits (Int.le_refl (n : Int))
  rw [h] at hread
  obtain rfl : (0 : Nat) = n := Int.ofNat.inj (Except.ok.inj hread)
  rw [digits, digitsOnto, if_pos (by decide)] at h
  cases h

/-- The digits of a number within the bounds are read as the number. -/
theorem read_digits {b : Bounds} {n : Nat} (h : (n : Int) ≤ b.high) : read b (digits n) = .ok n := by
  have hread := readUp_digits h
  cases hn : digits n with
  | nil => exact absurd hn (digits_ne_nil n)
  | cons c rest =>
    have hdigit : c.isDigit = true := isDigit_of_mem_digits (hn ▸ List.mem_cons_self)
    rw [hn] at hread
    rw [read]
    · exact hread
    · exact List.cons_ne_nil c rest
    all_goals
      rintro _ he
      rw [(List.cons.inj he).1] at hdigit
      cases hdigit

theorem signed_inj {i j : Int} (h : signed i = signed j) : i = j := by
  cases i with
  | ofNat m =>
    cases j with
    | ofNat n => exact congrArg Int.ofNat (digits_inj h)
    | negSucc n => exact absurd h (digits_ne_minus m _)
  | negSucc m =>
    cases j with
    | ofNat n => exact absurd h.symm (digits_ne_minus n _)
    | negSucc n =>
      have hsucc : m + 1 = n + 1 := digits_inj (List.cons.inj h).2
      rw [Nat.succ.inj hsucc]

/-! ## Numbers within bounds -/

theorem readUp_le {high n m : Int} {s : List Char} (hn : n ≤ high) (h : readUp high n s = .ok m) :
    m ≤ high := by
  induction s generalizing n with
  | nil => exact Except.ok.inj h ▸ hn
  | cons c rest ih =>
    unfold readUp at h
    split at h
    · cases h
    · split at h
      · cases h
      · next hle => exact ih (Int.not_lt.mp hle) h

theorem readDown_le {low n m : Int} {s : List Char} (hn : n ≤ 0) (h : readDown low n s = .ok m) :
    m ≤ 0 := by
  induction s generalizing n with
  | nil => exact Except.ok.inj h ▸ hn
  | cons c rest ih =>
    unfold readDown at h
    split at h
    · cases h
    · split at h
      · cases h
      · exact ih (by omega) h

/-- What is read is not above the bounds. -/
theorem le_high_of_read? {b : Bounds} (hb : 0 ≤ b.high) {s : List Char} {n : Int}
    (h : read? b s = some n) : n ≤ b.high := by
  have h : read b s = .ok n := by
    unfold read? at h
    cases hr : read b s with
    | error e =>
      rw [hr] at h
      cases h
    | ok m =>
      rw [hr] at h
      rw [Option.some.inj h]
  unfold read at h
  split at h
  · cases h
  · split at h
    · cases h
    · exact readUp_le hb h
  · split at h
    · cases h
    · exact Int.le_trans (readDown_le (Int.le_refl 0) h) hb
  · exact readUp_le hb h

/-- A number that is not negative is read back from its digits. -/
theorem read?_signed {b : Bounds} {n : Int} (hn : 0 ≤ n) (h : n ≤ b.high) :
    read? b (signed n) = some n := by
  obtain ⟨k, rfl⟩ := Int.eq_ofNat_of_zero_le hn
  rw [read?, show signed (k : Int) = digits k from rfl, read_digits h]
  rfl

end Lodging.Decimal
