import Lodging.Calendar.Document
import Mathlib.Algebra.Order.Ring.Nat

/-! # Stamps are far from the last day

A stamp has eight bytes, of which month and day take at least one each. That leaves a year of at most
five digits, so the day after the day of a stamp is a day as well. -/

namespace Lodging

theorem of_bind_eq_ok {ε α β : Type} {x : Except ε α} {f : α → Except ε β} {b : β}
    (h : (x >>= f) = .ok b) : ∃ a, x = .ok a ∧ f a = .ok b := by
  cases x with
  | error e => cases h
  | ok a => exact ⟨a, rfl, h⟩

theorem of_map_eq_ok {ε α β : Type} {x : Except ε α} {f : α → β} {b : β}
    (h : x.map f = .ok b) : ∃ a, x = .ok a ∧ f a = b := by
  cases x with
  | error e => cases h
  | ok a => exact ⟨a, rfl, Except.ok.inj h⟩

namespace Day

open Decimal (digit?)

variable {s s' : List Char} {n : Nat}

theorem length_trimStart_le (s : List Char) : (Text.trimStart s).length ≤ s.length :=
  (List.dropWhile_suffix _).length_le

theorem digit?_lt {c : Char} {d : Nat} (h : digit? c = some d) : d < 10 := by
  unfold digit? at h
  split at h
  · next hc =>
    obtain rfl := Option.some.inj h
    have hle : c.val ≤ '9'.val := (by simpa [Char.isDigit] using hc : _ ∧ _).2
    have hnat : c.toNat ≤ 57 := UInt32.le_iff_toNat_le.mp hle
    show c.toNat - 48 < 10
    omega
  · cases h

/-- What is read is a run of digits, and the number has no more of them. -/
theorem moreDigits_spec (limit n : Nat) (s : List Char) :
    ∃ ds, s = ds ++ (moreDigits limit n s).2 ∧ ds.length ≤ limit ∧
      (moreDigits limit n s).1 < (n + 1) * 10 ^ ds.length := by
  induction limit generalizing n s with
  | zero => exact ⟨[], rfl, Nat.le_refl _, by simp [moreDigits]⟩
  | succ limit ih =>
    cases s with
    | nil => exact ⟨[], rfl, Nat.zero_le _, by simp [moreDigits]⟩
    | cons c rest =>
      cases hc : digit? c with
      | none =>
        refine ⟨[], ?_, Nat.zero_le _, ?_⟩
        · simp [moreDigits, hc]
        · simp [moreDigits, hc]
      | some d =>
        obtain ⟨ds, heq, hlen, hlt⟩ := ih (n * 10 + d) rest
        rw [moreDigits, hc]
        refine ⟨c :: ds, congrArg _ heq, Nat.succ_le_succ hlen, Nat.lt_of_lt_of_le hlt ?_⟩
        have hd := digit?_lt hc
        rw [List.length_cons, Nat.pow_succ', ← Nat.mul_assoc]
        exact Nat.mul_le_mul_right _ (by omega)

theorem numberUpTo_spec {limit : Nat} (h : numberUpTo limit s = .ok (n, s')) :
    ∃ ds, s = ds ++ s' ∧ ds.length ≤ limit ∧ n < 10 ^ ds.length := by
  unfold numberUpTo at h
  split at h
  · cases h
  · split at h
    · cases h
    · obtain ⟨ds, heq, hlen, hlt⟩ := moreDigits_spec limit 0 (_ :: _)
      rw [Except.ok.inj h] at heq hlt
      exact ⟨ds, heq, hlen, by simpa using hlt⟩

/-- A number with a lower bound above zero has a digit. -/
theorem boundedNumber_spec {limit low high : Nat} (hlow : 0 < low)
    (h : boundedNumber limit low high s = .ok (n, s')) :
    n ≤ high ∧ s'.length < s.length := by
  obtain ⟨⟨m, t⟩, hread, h⟩ := of_bind_eq_ok h
  dsimp only at h
  split at h
  · next hm =>
    cases h
    obtain ⟨ds, heq, -, hlt⟩ := numberUpTo_spec hread
    have hlen := congrArg List.length heq
    have htrim := length_trimStart_le s
    have hpos : ds.length ≠ 0 := fun h0 => by
      rw [h0] at hlt
      omega
    rw [List.length_append] at hlen
    exact ⟨hm.2, by omega⟩
  · cases h

/-- A number has no more digits than it may have, and than there is room for. -/
theorem numberUpTo_lt {limit k : Nat} (h : numberUpTo limit s = .ok (n, s'))
    (hk : s.length ≤ s'.length + k ∨ limit ≤ k) : n < 10 ^ k := by
  obtain ⟨ds, heq, hlimit, hlt⟩ := numberUpTo_spec h
  have hlen := congrArg List.length heq
  rw [List.length_append] at hlen
  exact Nat.lt_of_lt_of_le hlt (Nat.pow_le_pow_right (by decide) (by omega))

/-- The number that was read is the year, with its sign, if it is in the range. -/
theorem inRange_iff {x : Except TextError (Nat × List Char)} (sign : Nat → Int) {y : Int} :
    (do
      let (y, s) ← x.map fun ((n, s) : Nat × List Char) => (sign n, s)
      if Decimal.int32.contains y then return (y, s) else throw TextError.outOfRange) =
        .ok (y, s') ↔
      Decimal.int32.contains y = true ∧ ∃ n, sign n = y ∧ x = .ok (n, s') := by
  constructor
  · intro h
    obtain ⟨⟨y', t⟩, hx, hok⟩ := of_bind_eq_ok h
    obtain ⟨⟨n, t'⟩, hn, he⟩ := of_map_eq_ok hx
    cases he
    dsimp only at hok
    split at hok
    · next hrange =>
      cases hok
      exact ⟨hrange, n, rfl, hn⟩
    · cases hok
  · rintro ⟨hrange, n, rfl, rfl⟩
    exact if_pos hrange

/-- A signed year has as many digits as there is room for, any other year at most four. -/
theorem year_lt {y : Int} (h : year s = .ok (y, s')) (hs : s.length ≤ s'.length + 6) :
    y < 100000 := by
  have htrim := length_trimStart_le s
  unfold year at h
  split at h
  · obtain ⟨-, n, rfl, -⟩ := (inRange_iff fun n => -(n : Int)).mp h
    omega
  · next r hsign =>
    obtain ⟨-, n, rfl, hn⟩ := (inRange_iff fun n => (n : Int)).mp h
    rw [hsign, List.length_cons] at htrim
    have hlt : n < 10 ^ 5 := numberUpTo_lt hn (.inl (by omega))
    omega
  · obtain ⟨-, n, rfl, hn⟩ := (inRange_iff fun n => (n : Int)).mp h
    have hlt : n < 10 ^ 4 := numberUpTo_lt hn (.inr (Nat.le_refl 4))
    omega

theorem number_lt_highest {y : Int} {m d : Nat} {day : Day} (hy : y < 100000) (hm : m ≤ 12)
    (hd : d ≤ 31) (h : ofCivil? ⟨y, m, d⟩ = some day) : day.number < highest := by
  have hhighest : highest = 95745704 := by decide
  unfold ofCivil? at h
  split at h
  · rw [number_of_ofNumber? h, hhighest]
    unfold Civil.number
    dsimp only
    split <;> omega
  · cases h

theorem readStamp_lt {day : Day} (hs : s.length ≤ 8) (h : readStamp s = .ok day) :
    day.number < highest := by
  obtain ⟨⟨y, s₁⟩, hy, h⟩ := of_bind_eq_ok h
  obtain ⟨⟨m, s₂⟩, hm, h⟩ := of_bind_eq_ok h
  obtain ⟨⟨d, s₃⟩, hd, h⟩ := of_bind_eq_ok h
  obtain ⟨hm12, hmlen⟩ := boundedNumber_spec (by decide) hm
  obtain ⟨hd31, hdlen⟩ := boundedNumber_spec (by decide) hd
  have hy' := year_lt hy (by omega)
  dsimp only [finish] at h
  split at h
  · cases h
  · next hcivil =>
    cases h
    exact number_lt_highest hy' hm12 hd31 hcivil
  · cases h

end Day

namespace Calendar

theorem takeBytes_length {n : Nat} {s t : List Char} (h : takeBytes n s = some t) :
    t.length ≤ n := by
  induction s generalizing n t with
  | nil =>
    cases n with
    | zero => cases h; exact Nat.le_refl 0
    | succ n => cases h
  | cons c rest ih =>
    cases n with
    | zero => cases h; exact Nat.le_refl 0
    | succ n =>
      rw [takeBytes] at h
      split at h
      · obtain ⟨u, hu, rfl⟩ := Option.map_eq_some_iff.mp h
        have hsize := c.utf8Size_pos
        have hlen := ih hu
        rw [List.length_cons]
        omega
      · cases h

/-- The day after the day of a stamp exists. -/
theorem exists_next?_of_stampDay? {v : List Char} {d : Day} (h : stampDay? v = some d) :
    ∃ e, d.next? = some e := by
  obtain ⟨s, hs, hd⟩ := Option.bind_eq_some_iff.mp h
  cases hread : Day.readStamp s with
  | error e => rw [hread] at hd; cases hd
  | ok day =>
    rw [hread] at hd
    cases hd
    have hlt := Day.readStamp_lt (takeBytes_length hs) hread
    have hlow := d.inRange.1
    exact ⟨_, dif_pos ⟨by omega, by omega⟩⟩

end Calendar

end Lodging
