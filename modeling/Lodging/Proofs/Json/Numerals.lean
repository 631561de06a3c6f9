import Lodging.Json.Printer
import Lodging.Json.Reader
import Lodging.Proofs.Decimal.Whole
import Mathlib.Data.List.TakeWhile

/-! # Numbers in documents

A number is written as one run of characters that numerals have. The run of a whole number of at most 64
bits is read as that number: it has no leading zero, no point and no exponent. -/

namespace Lodging

namespace Decimal

/-! ## Digits -/

theorem takeDigits_of_isDigit {s : List Char} (h : ∀ c ∈ s, c.isDigit = true) :
    takeDigits s = (s.filterMap digit?, []) := by
  rw [takeDigits, List.takeWhile_eq_self_iff.mpr h, List.dropWhile_eq_nil_iff.mpr h]

theorem ofDigits_digitsOnto (n : Nat) (acc : List Char) :
    ofDigits ((digitsOnto n acc).filterMap digit?) =
      (acc.filterMap digit?).foldl (fun n d => n * 10 + d) n := by
  induction n using Nat.strongRecOn generalizing acc with
  | ind n ih =>
    unfold digitsOnto
    split
    · next hn => simp [ofDigits, digit?_digitChar n hn]
    · next hn =>
      have hlast := digit?_digitChar (n % 10) (Nat.mod_lt n (by decide))
      rw [ih (n / 10) (by omega), List.filterMap_cons_some hlast, List.foldl_cons,
        show n / 10 * 10 + n % 10 = n by omega]

theorem ofDigits_digits (n : Nat) : ofDigits ((digits n).filterMap digit?) = n :=
  ofDigits_digitsOnto n []

/-- No number but zero begins with a zero. -/
theorem exists_leading (n : Nat) (acc : List Char) :
    ∃ d ds, (digitsOnto n acc).filterMap digit? = d :: ds ∧
      (d = 0 → n = 0 ∧ ds = acc.filterMap digit?) := by
  induction n using Nat.strongRecOn generalizing acc with
  | ind n ih =>
    unfold digitsOnto
    split
    · next hn =>
      exact ⟨n, _, List.filterMap_cons_some (digit?_digitChar n hn), fun h => ⟨h, rfl⟩⟩
    · next hn =>
      obtain ⟨d, ds, heq, hzero⟩ := ih (n / 10) (by omega) (digitChar (n % 10) :: acc)
      exact ⟨d, ds, heq, fun h => absurd (hzero h).1 (by omega)⟩

end Decimal

namespace Json

open Decimal (digit? digits signed)

/-! ## Runs of numeral characters -/

/-- The text is lexed as one numeral: it begins like one, and has only characters of numerals. -/
def Numeric (s : List Char) : Prop :=
  (∃ c rest, s = c :: rest ∧ (c = '-' ∨ c.isDigit = true)) ∧ ∀ c ∈ s, isNumeric c = true

theorem isNumeric_of_isDigit {c : Char} (h : c.isDigit = true) : isNumeric c = true := by
  simp [isNumeric, h]

theorem numeric_of_isDigit {s : List Char} (hne : s ≠ []) (h : ∀ c ∈ s, c.isDigit = true) :
    Numeric s := by
  obtain ⟨c, rest, rfl⟩ := List.exists_cons_of_ne_nil hne
  exact ⟨⟨c, rest, rfl, .inr (h c List.mem_cons_self)⟩, fun d hd => isNumeric_of_isDigit (h d hd)⟩

theorem numeric_zero : Numeric ['0'] :=
  numeric_of_isDigit (List.cons_ne_nil _ _) (List.forall_mem_singleton.mpr rfl)

theorem numeric_digits (n : Nat) : Numeric (digits n) :=
  numeric_of_isDigit (Decimal.digits_ne_nil n) fun _ h => Decimal.isDigit_of_mem_digits h

theorem Numeric.append {s t : List Char} (hs : Numeric s) (ht : ∀ c ∈ t, isNumeric c = true) :
    Numeric (s ++ t) := by
  obtain ⟨⟨c, rest, rfl, hc⟩, hall⟩ := hs
  exact ⟨⟨c, rest ++ t, rfl, hc⟩, List.forall_mem_append.mpr ⟨hall, ht⟩⟩

theorem Numeric.negative {s : List Char} (h : Numeric s) : Numeric ('-' :: s) :=
  ⟨⟨'-', s, rfl, .inl rfl⟩, List.forall_mem_cons.mpr ⟨rfl, h.2⟩⟩

theorem numeric_signed (i : Int) : Numeric (signed i) := by
  cases i with
  | ofNat n => exact numeric_digits n
  | negSucc n => exact (numeric_digits (n + 1)).negative

theorem isNumeric_of_mem_zeros {c : Char} {n : Nat} (h : c ∈ Decimal.zeros n) : isNumeric c = true := by
  rw [List.eq_of_mem_replicate h]
  rfl

theorem numeric_positional (s : Decimal.Scaled) : Numeric (s.positional ['.', '0']) := by
  have hpoint : ∀ c ∈ ['.', '0'], isNumeric c = true :=
    List.forall_mem_cons.mpr ⟨rfl, List.forall_mem_singleton.mpr rfl⟩
  have hzeros : ∀ n, ∀ c ∈ Decimal.zeros n, isNumeric c = true := fun n c => isNumeric_of_mem_zeros
  have hdigits : ∀ c ∈ digits s.digits, isNumeric c = true := (numeric_digits s.digits).2
  unfold Decimal.Scaled.positional
  dsimp only
  split
  · split
    · exact numeric_zero.append hpoint
    · exact ((numeric_digits s.digits).append (hzeros _)).append hpoint
  · next e _ =>
    split
    · next hplaces =>
      -- at least one digit stands before the point
      have hne : (digits s.digits).take ((digits s.digits).length - (e + 1)) ≠ [] := by
        intro h
        have hlen := congrArg List.length h
        rw [List.length_take, List.length_nil] at hlen
        omega
      refine (numeric_of_isDigit hne fun c hc => ?_).append (List.forall_mem_cons.mpr ⟨rfl, ?_⟩)
      · exact Decimal.isDigit_of_mem_digits (List.mem_of_mem_take hc)
      · exact fun c hc => hdigits c (List.mem_of_mem_drop hc)
    · have hfront : Numeric ['0', '.'] := numeric_zero.append (List.forall_mem_singleton.mpr rfl)
      exact (hfront.append (hzeros _)).append hdigits

theorem numeric_scientific (s : Decimal.Scaled) : Numeric s.scientific := by
  have htail : ∀ c ∈ 'e' :: signed (s.exponent + (digits s.digits).length - 1), isNumeric c = true :=
    List.forall_mem_cons.mpr ⟨rfl, (numeric_signed _).2⟩
  have hdigit : ∀ c ∈ digits s.digits, c.isDigit = true := fun _ h => Decimal.isDigit_of_mem_digits h
  unfold Decimal.Scaled.scientific
  dsimp only
  split
  · next h => exact absurd h (Decimal.digits_ne_nil _)
  · next d h =>
    rw [h] at hdigit
    exact (numeric_of_isDigit (List.cons_ne_nil d []) hdigit).append htail
  · next d rest _ h =>
    obtain ⟨hd, hrest⟩ := List.forall_mem_cons.mp (h ▸ hdigit)
    have hfirst : Numeric [d] :=
      numeric_of_isDigit (List.cons_ne_nil d []) fun c hc => List.mem_singleton.mp hc ▸ hd
    refine (hfirst.append (t := '.' :: rest) ?_).append htail
    exact List.forall_mem_cons.mpr ⟨rfl, fun c hc => isNumeric_of_isDigit (hrest c hc)⟩

theorem numeric_documented (x : Float) : Numeric (Decimal.documented x) := by
  have hsize : ∀ s : Decimal.Scaled, Numeric s.documented := by
    intro s
    unfold Decimal.Scaled.documented
    dsimp only
    split
    · exact numeric_positional s
    · exact numeric_scientific s
  unfold Decimal.documented Decimal.sign
  split
  · exact (hsize _).negative
  · exact hsize _

/-! ## Whole numbers -/

/-- Whole numbers of documents have at most 64 bits. -/
def IsWhole (i : Int) : Prop := Decimal.int64.low ≤ i ∧ i ≤ Decimal.word64.high

theorem isWhole_of_contains {b : Decimal.Bounds} {i : Int} (h : b.contains i = true)
    (hb : Decimal.int64.low ≤ b.low ∧ b.high ≤ Decimal.word64.high) : IsWhole i := by
  rw [Decimal.Bounds.contains, Bool.and_eq_true, decide_eq_true_eq, decide_eq_true_eq] at h
  exact ⟨Int.le_trans hb.1 h.1, Int.le_trans h.2 hb.2⟩

theorem numeral?_minus (s : List Char) : numeral? ('-' :: s) = magnitude? true s := rfl

theorem numeral?_of_ne_minus {s : List Char} (h : ∀ r, s ≠ '-' :: r) :
    numeral? s = magnitude? false s := by
  unfold numeral?
  split
  · next r => exact absurd rfl (h r)
  · rfl

/-- The digits of a number are its units; there is nothing else in its numeral. -/
theorem magnitude?_digits (n : Nat) : ∃ units, Decimal.ofDigits units = n ∧
    ∀ negative, magnitude? negative (digits n) = some ⟨negative, units, [], false, 0⟩ := by
  obtain ⟨d, ds, hvalues, hzero⟩ := Decimal.exists_leading n []
  have hdigits : (digits n).filterMap digit? = d :: ds := hvalues
  have htake : Decimal.takeDigits (digits n) = (d :: ds, []) := by
    rw [Decimal.takeDigits_of_isDigit fun _ h => Decimal.isDigit_of_mem_digits h, hdigits]
  refine ⟨d :: ds, by rw [← hdigits, Decimal.ofDigits_digits], fun negative => ?_⟩
  unfold magnitude?
  rw [htake]
  split
  · next h => cases h
  · next h =>
    cases h
    cases (hzero rfl).2
  · next h =>
    cases h
    rfl

/-- The number is read back from its numeral, as long as it fits into 64 bits. -/
theorem numeral?_signed {i : Int} (h : IsWhole i) :
    ∃ n, numeral? (signed i) = some n ∧ ofNumeral n = .whole i := by
  obtain ⟨hlow, hhigh⟩ := h
  cases i with
  | ofNat m =>
    obtain ⟨units, hvalue, hread⟩ := magnitude?_digits m
    refine ⟨_, (numeral?_of_ne_minus (Decimal.digits_ne_minus m)).trans (hread false), ?_⟩
    have hfits : Decimal.word64.contains (m : Int) = true := by
      rw [Decimal.Bounds.contains, Bool.and_eq_true, decide_eq_true_eq, decide_eq_true_eq]
      exact ⟨Int.natCast_nonneg m, hhigh⟩
    simp [ofNumeral, Decimal.Numeral.read?, hvalue, hfits]
  | negSucc m =>
    obtain ⟨units, hvalue, hread⟩ := magnitude?_digits (m + 1)
    refine ⟨_, (numeral?_minus _).trans (hread true), ?_⟩
    have hfits : Decimal.int64.contains (-((m + 1 : Nat) : Int)) = true := by
      rw [Decimal.Bounds.contains, Bool.and_eq_true, decide_eq_true_eq, decide_eq_true_eq]
      exact ⟨hlow, Int.le_trans (Int.neg_nonpos_of_nonneg (Int.natCast_nonneg _)) (by decide)⟩
    simp only [ofNumeral, Decimal.Numeral.read?, hvalue, hfits]
    simp [Int.negSucc_eq]

end Json

end Lodging
