import Lodging.Proofs.Day.Dates

/-! # How a stamp may be spelled

A stamp is read from three numbers with blanks before each of them. A year of four digits and a month of
two end by themselves; any other year or month, and every year with a sign, ends at a blank, because the
digits of the next number would belong to it otherwise. Nothing but these texts is read as a stamp. -/

namespace Lodging.Day

open Decimal (digit? ofDigits)
open Text (Blanks isBlank trimStart)

/-! ## Numbers -/

structure Numeral (ds : List Char) (n : Nat) : Prop where
  nonempty : ds ≠ []
  digits : ∀ c ∈ ds, c.isDigit = true
  value : ofDigits (ds.map fun c => c.toNat - '0'.toNat) = n

/-- No more digits belong to the number: it has as many as it may have, or no digit follows. -/
def Complete (limit : Nat) (ds rest : List Char) : Prop :=
  ds.length = limit ∨ ds.length < limit ∧ EndsNumber rest

theorem digit?_of_isDigit {c : Char} (h : c.isDigit = true) :
    digit? c = some (c.toNat - '0'.toNat) := by
  rw [digit?, if_pos h]

theorem digit?_eq_none {c : Char} : digit? c = none ↔ c.isDigit = false := by
  cases h : c.isDigit <;> simp [digit?, h]

theorem complete_cons {limit : Nat} {c : Char} {ds rest : List Char} :
    Complete (limit + 1) (c :: ds) rest ↔ Complete limit ds rest := by
  simp only [Complete, List.length_cons, Nat.add_right_cancel_iff, Nat.add_lt_add_iff_right]

theorem moreDigits_of_complete {limit : Nat} {ds rest : List Char}
    (hds : ∀ c ∈ ds, c.isDigit = true) (h : Complete limit ds rest) (n : Nat) :
    moreDigits limit n (ds ++ rest) =
      ((ds.map fun c => c.toNat - '0'.toNat).foldl (fun n d => n * 10 + d) n, rest) := by
  induction ds generalizing limit n with
  | nil =>
    rcases h with rfl | ⟨-, hends⟩
    · rfl
    · exact moreDigits_of_endsNumber hends limit n
  | cons c ds ih =>
    cases limit with
    | zero => rcases h with h | h <;> simp at h
    | succ limit =>
      rw [List.cons_append, moreDigits, digit?_of_isDigit (hds c List.mem_cons_self)]
      exact ih (fun d hd => hds d (List.mem_cons_of_mem _ hd)) (complete_cons.mp h) _

/-- Every text begins with the digits of a number that is complete, if with none at all. -/
theorem exists_complete (limit : Nat) (s : List Char) : ∃ ds rest, s = ds ++ rest ∧
    (∀ c ∈ ds, c.isDigit = true) ∧ Complete limit ds rest := by
  induction limit generalizing s with
  | zero => exact ⟨[], s, rfl, by simp, .inl rfl⟩
  | succ limit ih =>
    have hnone : EndsNumber s → ∃ ds rest, s = ds ++ rest ∧ (∀ c ∈ ds, c.isDigit = true) ∧
        Complete (limit + 1) ds rest := fun h => ⟨[], s, rfl, by simp, .inr ⟨Nat.succ_pos _, h⟩⟩
    cases s with
    | nil => exact hnone fun c hc => (by cases hc)
    | cons c s =>
      by_cases hc : c.isDigit = true
      · obtain ⟨ds, rest, rfl, hds, hcomplete⟩ := ih s
        exact ⟨c :: ds, rest, rfl, List.forall_mem_cons.mpr ⟨hc, hds⟩, complete_cons.mpr hcomplete⟩
      · refine hnone fun d hd => ?_
        obtain rfl : c = d := Option.some.inj hd
        exact digit?_eq_none.mpr (Bool.eq_false_iff.mpr hc)

theorem numberUpTo_iff {limit n : Nat} {s rest : List Char} (hlimit : limit = 0 → s = []) :
    numberUpTo limit s = .ok (n, rest) ↔
      ∃ ds, s = ds ++ rest ∧ Numeral ds n ∧ Complete limit ds rest := by
  constructor
  · intro h
    obtain ⟨ds, rest', rfl, hds, hcomplete⟩ := exists_complete limit s
    have hread := moreDigits_of_complete hds hcomplete 0
    unfold numberUpTo at h
    split at h
    · cases h
    next c s hs =>
    split at h
    · cases h
    next hc =>
    rw [hread] at h
    cases h
    refine ⟨ds, rfl, ⟨?_, hds, rfl⟩, hcomplete⟩
    -- the text begins with a digit, so the number has one
    rintro rfl
    rw [List.nil_append] at hs hlimit
    rcases hcomplete with h0 | ⟨-, hends⟩
    · rw [hlimit h0.symm] at hs
      cases hs
    · rw [hends c (by rw [hs]; rfl)] at hc
      exact hc rfl
  · rintro ⟨ds, rfl, hnumeral, hcomplete⟩
    obtain ⟨c, tail, rfl⟩ := List.exists_cons_of_ne_nil hnumeral.nonempty
    have hc := hnumeral.digits c List.mem_cons_self
    have hread := moreDigits_of_complete hnumeral.digits hcomplete 0
    rw [List.cons_append] at hread ⊢
    rw [numberUpTo, if_neg (by simp [digit?_of_isDigit hc]), hread, ← hnumeral.value]
    rfl

theorem Numeral.lt {ds : List Char} {n : Nat} (h : Numeral ds n) : n < 10 ^ ds.length := by
  have hne : ds.length ≠ 0 := fun h0 => h.nonempty (List.length_eq_zero_iff.mp h0)
  have hread : numberUpTo ds.length ds = .ok (n, []) :=
    (numberUpTo_iff fun h0 => absurd h0 hne).mpr ⟨ds, (List.append_nil ds).symm, h, .inl rfl⟩
  exact numberUpTo_lt hread (.inr (Nat.le_refl _))

theorem trimStart_append {b s : List Char} (hb : Blanks b) (hs : ∀ c ∈ s.head?, isBlank c = false) :
    trimStart (b ++ s) = s := by
  rw [trimStart, List.dropWhile_append_of_pos hb]
  exact Text.dropWhile_eq_self_of_head hs

theorem exists_trimStart (s : List Char) : ∃ b, Blanks b ∧ s = b ++ trimStart s :=
  ⟨s.takeWhile isBlank, fun _ hc => List.mem_takeWhile_imp hc,
    (List.takeWhile_append_dropWhile (p := isBlank) (l := s)).symm⟩

/-- A number does not begin with a blank. -/
theorem Numeral.head {ds : List Char} {n : Nat} (h : Numeral ds n) (rest : List Char) :
    ∀ c ∈ (ds ++ rest).head?, isBlank c = false := by
  obtain ⟨c, tail, rfl⟩ := List.exists_cons_of_ne_nil h.nonempty
  intro d hd
  obtain rfl : c = d := Option.some.inj hd
  exact Text.isBlank_of_isDigit (h.digits c List.mem_cons_self)

theorem boundedNumber_iff {limit low high n : Nat} {s rest : List Char} (hlimit : limit ≠ 0) :
    boundedNumber limit low high s = .ok (n, rest) ↔ (low ≤ n ∧ n ≤ high) ∧
      ∃ b ds, s = b ++ (ds ++ rest) ∧ Blanks b ∧ Numeral ds n ∧ Complete limit ds rest := by
  constructor
  · intro h
    obtain ⟨⟨m, t⟩, hread, h⟩ := of_bind_eq_ok h
    dsimp only at h
    split at h
    · next hm =>
      cases h
      obtain ⟨ds, hds, hnumeral, hcomplete⟩ :=
        (numberUpTo_iff fun h0 => absurd h0 hlimit).mp hread
      obtain ⟨b, hb, hs⟩ := exists_trimStart s
      exact ⟨hm, b, ds, hds ▸ hs, hb, hnumeral, hcomplete⟩
    · cases h
  · rintro ⟨hbounds, b, ds, rfl, hb, hnumeral, hcomplete⟩
    have hread := (numberUpTo_iff fun h0 => absurd h0 hlimit).mpr ⟨ds, rfl, hnumeral, hcomplete⟩
    rw [boundedNumber, trimStart_append hb (hnumeral.head rest), hread]
    exact if_pos hbounds

/-! ## Years -/

/-- The text of a year: up to four digits, or any number of them behind a sign. -/
inductive YearText : List Char → Int → Prop
  | plain {ds : List Char} {n : Nat} : Numeral ds n → ds.length ≤ 4 → YearText ds n
  | plus {ds : List Char} {n : Nat} : Numeral ds n → YearText ('+' :: ds) n
  | minus {ds : List Char} {n : Nat} : Numeral ds n → YearText ('-' :: ds) (-n)

def IsFour (t : List Char) : Prop := t.length = 4 ∧ ∀ c ∈ t, c.isDigit = true

theorem not_isFour_cons {c : Char} (hc : c.isDigit = false) (t : List Char) : ¬ IsFour (c :: t) :=
  fun h => Bool.eq_false_iff.mp hc (h.2 c List.mem_cons_self)

theorem YearText.head {t : List Char} {y : Int} (h : YearText t y) (rest : List Char) :
    ∀ c ∈ (t ++ rest).head?, isBlank c = false := by
  cases h with
  | plain hds _ => exact hds.head rest
  | plus _ | minus _ =>
    intro c hc
    obtain rfl := Option.some.inj hc
    rfl

theorem endsNumber_nil : EndsNumber [] := fun c hc => by cases hc

/-- A number that may go on to the end of the text is complete where no digit follows. -/
theorem complete_length_iff {ds rest : List Char} :
    Complete (ds ++ rest).length ds rest ↔ EndsNumber rest := by
  rw [Complete, List.length_append]
  constructor
  · rintro (h | ⟨-, h⟩)
    · rw [List.length_eq_zero_iff.mp (show rest.length = 0 by omega)]
      exact endsNumber_nil
    · exact h
  · intro h
    cases rest with
    | nil => exact .inl rfl
    | cons c rest => exact .inr ⟨by rw [List.length_cons]; omega, h⟩

/-- A signed number is read as far as there are digits. -/
theorem numberUpTo_length_iff {n : Nat} {s rest : List Char} :
    numberUpTo s.length s = .ok (n, rest) ↔
      ∃ ds, s = ds ++ rest ∧ Numeral ds n ∧ EndsNumber rest := by
  rw [numberUpTo_iff List.length_eq_zero_iff.mp]
  refine exists_congr fun ds => and_congr_right fun hs => ?_
  rw [hs, complete_length_iff]

/-- Blanks before a year make no difference. -/
theorem year_blanks {b s : List Char} (hb : Blanks b) (hs : ∀ c ∈ s.head?, isBlank c = false) :
    year (b ++ s) = year s := by
  have htrim : trimStart s = s := Text.dropWhile_eq_self_of_head hs
  unfold year
  rw [trimStart_append hb hs, htrim]

theorem year_plain {ds rest : List Char} {n : Nat} (h : Numeral ds n)
    (hcomplete : Complete 4 ds rest) (hrange : Decimal.int32.contains (n : Int) = true) :
    year (ds ++ rest) = .ok ((n : Int), rest) := by
  have htrim : trimStart (ds ++ rest) = ds ++ rest := Text.dropWhile_eq_self_of_head (h.head rest)
  have hread := (numberUpTo_iff fun h0 => absurd h0 (by decide)).mpr ⟨ds, rfl, h, hcomplete⟩
  -- digits begin with no sign
  obtain ⟨c, tail, rfl⟩ := List.exists_cons_of_ne_nil h.nonempty
  have hc := h.digits c List.mem_cons_self
  rw [year, htrim]
  split
  · next he =>
    rw [(List.cons.inj he).1] at hc
    cases hc
  · next he =>
    rw [(List.cons.inj he).1] at hc
    cases hc
  · exact (inRange_iff fun n => (n : Int)).mpr ⟨hrange, n, rfl, hread⟩

theorem year_iff {s rest : List Char} {y : Int} : year s = .ok (y, rest) ↔
    Decimal.int32.contains y = true ∧ ∃ b t, s = b ++ (t ++ rest) ∧ Blanks b ∧ YearText t y ∧
      (IsFour t ∨ EndsNumber rest) := by
  constructor
  · intro h
    obtain ⟨b, hb, hs⟩ := exists_trimStart s
    unfold year at h
    split at h
    · next r htrim =>
      obtain ⟨hrange, n, rfl, hn⟩ := (inRange_iff fun n => -(n : Int)).mp h
      obtain ⟨ds, rfl, hnumeral, hends⟩ := numberUpTo_length_iff.mp hn
      exact ⟨hrange, b, '-' :: ds, by rw [hs, htrim]; rfl, hb, .minus hnumeral, .inr hends⟩
    · next r htrim =>
      obtain ⟨hrange, n, rfl, hn⟩ := (inRange_iff fun n => (n : Int)).mp h
      obtain ⟨ds, rfl, hnumeral, hends⟩ := numberUpTo_length_iff.mp hn
      exact ⟨hrange, b, '+' :: ds, by rw [hs, htrim]; rfl, hb, .plus hnumeral, .inr hends⟩
    · obtain ⟨hrange, n, rfl, hn⟩ := (inRange_iff fun n => (n : Int)).mp h
      obtain ⟨ds, hds, hnumeral, hcomplete⟩ :=
        (numberUpTo_iff fun h0 => absurd h0 (by decide)).mp hn
      refine ⟨hrange, b, ds, hds ▸ hs, hb, .plain hnumeral ?_, ?_⟩
      · rcases hcomplete with h | h <;> omega
      · exact hcomplete.imp (⟨·, hnumeral.digits⟩) (·.2)
  · rintro ⟨hrange, b, t, rfl, hb, ht, hends⟩
    rw [year_blanks hb (ht.head rest)]
    cases ht with
    | plain hnumeral hlen =>
      refine year_plain hnumeral ?_ hrange
      rcases Nat.eq_or_lt_of_le hlen with h4 | hlt
      · exact .inl h4
      · exact .inr ⟨hlt, hends.resolve_left fun hfour => Nat.ne_of_lt hlt hfour.1⟩
    | plus hnumeral =>
      have hends := hends.resolve_left (not_isFour_cons rfl _)
      exact year_plus (numberUpTo_length_iff.mpr ⟨_, rfl, hnumeral, hends⟩) hrange
    | minus hnumeral =>
      have hends := hends.resolve_left (not_isFour_cons rfl _)
      exact year_minus (numberUpTo_length_iff.mpr ⟨_, rfl, hnumeral, hends⟩) hrange

/-! ## Stamps -/

/-- The text of a stamp in all its spellings, and the date that it gives. -/
inductive Spells : List Char → Civil → Prop
  | mk {b₁ t b₂ m b₃ n : List Char} {year : Int} {month day : Nat} :
      Blanks b₁ → YearText t year → Blanks b₂ → IsFour t ∨ b₂ ≠ [] →
      Numeral m month → Blanks b₃ → m.length = 2 ∨ m.length < 2 ∧ b₃ ≠ [] →
      Numeral n day → n.length ≤ 2 →
      Spells (b₁ ++ (t ++ (b₂ ++ (m ++ (b₃ ++ n))))) ⟨year, month, day⟩

/-- A number ends where something stands between it and the next. -/
theorem endsNumber_iff {b ds : List Char} {n : Nat} (hb : Blanks b) (h : Numeral ds n)
    (rest : List Char) : EndsNumber (b ++ (ds ++ rest)) ↔ b ≠ [] := by
  cases b with
  | nil =>
    obtain ⟨c, tail, rfl⟩ := List.exists_cons_of_ne_nil h.nonempty
    have hc := digit?_of_isDigit (h.digits c List.mem_cons_self)
    refine ⟨fun hends => ?_, fun hne => absurd rfl hne⟩
    rw [hends c rfl] at hc
    cases hc
  | cons c b =>
    refine ⟨fun _ => List.cons_ne_nil c b, fun _ d hd => ?_⟩
    obtain rfl : c = d := Option.some.inj hd
    refine digit?_eq_none.mpr (Bool.eq_false_iff.mpr fun hc => ?_)
    exact Text.not_mem_of_blanks hb (Text.isBlank_of_isDigit hc) List.mem_cons_self

theorem finish_iff {y : Int} {m n : Nat} {rest : List Char} {d : Day} :
    finish y m n rest = .ok d ↔ rest = [] ∧ d.civil = ⟨y, m, n⟩ := by
  unfold finish
  cases rest with
  | cons c rest => simp
  | nil =>
    constructor
    · intro h
      cases hday : ofCivil? ⟨y, m, n⟩ with
      | none => rw [hday] at h; cases h
      | some e =>
        rw [hday] at h
        cases h
        exact ⟨rfl, civil_of_ofCivil? hday⟩
    · rintro ⟨-, h⟩
      rw [← h, d.ofCivil?_civil]

/-- A text is read as the stamp of a day exactly if it spells its date. -/
theorem readStamp_iff {s : List Char} {d : Day} : readStamp s = .ok d ↔ Spells s d.civil := by
  constructor
  · intro h
    obtain ⟨⟨y, s₁⟩, hyear, h⟩ := of_bind_eq_ok h
    obtain ⟨⟨month, s₂⟩, hmonth, h⟩ := of_bind_eq_ok h
    obtain ⟨⟨day, s₃⟩, hday, h⟩ := of_bind_eq_ok h
    obtain ⟨rfl, hcivil⟩ := finish_iff.mp h
    obtain ⟨-, b₁, t, rfl, hb₁, ht, hends⟩ := year_iff.mp hyear
    obtain ⟨-, b₂, m, rfl, hb₂, hm, hcomplete⟩ := (boundedNumber_iff (by decide)).mp hmonth
    obtain ⟨-, b₃, n, rfl, hb₃, hn, hlast⟩ := (boundedNumber_iff (by decide)).mp hday
    rw [endsNumber_iff hb₂ hm] at hends
    rw [Complete, endsNumber_iff hb₃ hn] at hcomplete
    rw [hcivil, List.append_nil]
    exact .mk hb₁ ht hb₂ hends hm hb₃ hcomplete hn (by rcases hlast with h | h <;> omega)
  · intro h
    have hrange := d.contains_year
    have hbounds := d.civil_bounds
    generalize hc : d.civil = c at h hrange hbounds
    obtain @⟨b₁, t, b₂, m, b₃, n, y, month, day, hb₁, ht, hb₂, hends, hm, hb₃, hcomplete, hn, hlen⟩ := h
    dsimp only at hrange hbounds
    have hyear : year (b₁ ++ (t ++ (b₂ ++ (m ++ (b₃ ++ n))))) = .ok (y, b₂ ++ (m ++ (b₃ ++ n))) :=
      year_iff.mpr ⟨hrange, b₁, t, rfl, hb₁, ht, hends.imp_right (endsNumber_iff hb₂ hm _).mpr⟩
    have hmonth : boundedNumber 2 1 12 (b₂ ++ (m ++ (b₃ ++ n))) = .ok (month, b₃ ++ n) := by
      have hblank := endsNumber_iff hb₃ hn []
      rw [List.append_nil] at hblank
      exact (boundedNumber_iff (by decide)).mpr ⟨by omega, b₂, m, rfl, hb₂, hm,
        hcomplete.imp_right (And.imp_right hblank.mpr)⟩
    have hday : boundedNumber 2 1 31 (b₃ ++ n) = .ok (day, []) :=
      (boundedNumber_iff (by decide)).mpr ⟨by omega, b₃, n, by rw [List.append_nil], hb₃, hn,
        (Nat.eq_or_lt_of_le hlen).imp_right (⟨·, endsNumber_nil⟩)⟩
    simp only [readStamp, hyear, hmonth, hday, bind, Except.bind]
    exact finish_iff.mpr ⟨rfl, hc⟩

/-! ## Digits alone -/

/-- Digits alone: four for the year, two for the month and the others for the day. -/
inductive PlainStamp : List Char → Civil → Prop
  | mk {t m n : List Char} {year month day : Nat} : Numeral t year → t.length = 4 →
      Numeral m month → m.length = 2 → Numeral n day → n.length ≤ 2 →
      PlainStamp (t ++ (m ++ n)) ⟨year, month, day⟩

/-- The character has no place in a stamp of digits alone: a blank or a sign. -/
def IsLoose (c : Char) : Prop := isBlank c = true ∨ c = '+' ∨ c = '-'

theorem IsLoose.not_isDigit {c : Char} (h : IsLoose c) : c.isDigit = false := by
  rcases h with h | rfl | rfl
  · refine Bool.eq_false_iff.mpr fun hc => ?_
    rw [Text.isBlank_of_isDigit hc] at h
    cases h
  · rfl
  · rfl

theorem PlainStamp.isDigit {s : List Char} {c : Civil} (h : PlainStamp s c) :
    ∀ ch ∈ s, ch.isDigit = true := by
  cases h with
  | mk ht _ hm _ hn _ =>
    exact List.forall_mem_append.mpr
      ⟨ht.digits, List.forall_mem_append.mpr ⟨hm.digits, hn.digits⟩⟩

theorem PlainStamp.unique {s : List Char} {c c' : Civil} (h : PlainStamp s c)
    (h' : PlainStamp s c') : c = c' := by
  obtain @⟨t, m, n, y, month, day, ht, ht4, hm, hm2, hn, -⟩ := h
  generalize hs : t ++ (m ++ n) = s at h'
  obtain @⟨t', m', n', y', month', day', ht', ht4', hm', hm2', hn', -⟩ := h'
  obtain ⟨rfl, hrest⟩ := List.append_inj hs (ht4.trans ht4'.symm)
  obtain ⟨rfl, rfl⟩ := List.append_inj hrest (hm2.trans hm2'.symm)
  rw [← ht.value, ← hm.value, ← hn.value, ht'.value, hm'.value, hn'.value]

theorem eq_nil_of_blanks {b : List Char} (hb : Blanks b) (h : ∀ c ∈ b, ¬ IsLoose c) : b = [] :=
  List.eq_nil_iff_forall_not_mem.mpr fun c hc => h c hc (.inl (hb c hc))

/-- With no blank and no sign in it a stamp has digits alone. -/
theorem plainStamp_iff {s : List Char} {c : Civil} :
    PlainStamp s c ↔ Spells s c ∧ ∀ ch ∈ s, ¬ IsLoose ch := by
  constructor
  · intro h
    refine ⟨?_, fun ch hch hloose => ?_⟩
    · obtain @⟨t, m, n, y, month, day, ht, ht4, hm, hm2, hn, hn2⟩ := h
      have hnil : Blanks [] := fun _ hc => by cases hc
      exact .mk hnil (.plain ht (Nat.le_of_eq ht4)) hnil (.inl ⟨ht4, ht.digits⟩) hm hnil (.inl hm2)
        hn hn2
    · have hdigit := h.isDigit ch hch
      rw [hloose.not_isDigit] at hdigit
      cases hdigit
  · rintro ⟨h, hplain⟩
    obtain @⟨b₁, t, b₂, m, b₃, n, y, month, day, hb₁, ht, hb₂, hends, hm, hb₃, hcomplete, hn, hlen⟩ := h
    simp only [List.forall_mem_append] at hplain
    obtain ⟨hp₁, hpt, hp₂, -, hp₃, -⟩ := hplain
    obtain rfl := eq_nil_of_blanks hb₁ hp₁
    obtain rfl := eq_nil_of_blanks hb₂ hp₂
    obtain rfl := eq_nil_of_blanks hb₃ hp₃
    have hfour : IsFour t := hends.resolve_right fun hne => hne rfl
    have hm2 : m.length = 2 := hcomplete.resolve_right fun hne => hne.2 rfl
    simp only [List.nil_append]
    cases ht with
    | plain ht _ => exact .mk ht hfour.1 hm hm2 hn hlen
    | plus _ => exact absurd (.inr (.inl rfl)) (hpt '+' List.mem_cons_self)
    | minus _ => exact absurd (.inr (.inr rfl)) (hpt '-' List.mem_cons_self)

end Lodging.Day
