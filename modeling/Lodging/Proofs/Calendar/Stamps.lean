import Lodging.Proofs.Calendar.Grammar
import Lodging.Proofs.Day.Spelling
import Lodging.Proofs.Text.Utf8

/-! # The values that are dates

The first eight bytes of a value are read, and what follows them has no influence. Eight digits are the
date of a day if the calendar has it. All other values that are read as dates have a blank or a sign in
these bytes: they are the looser spellings of a stamp. An event with a value that is no date takes up
nothing. -/

namespace Lodging.Calendar

open Day (Numeral Spells PlainStamp IsLoose)
open Text.Utf8 (encode)

/-! ## Bytes -/

def asciiNumber (bytes : List UInt8) : Nat := Decimal.ofDigits (bytes.map fun b => b.toNat - 48)

/-- The bytes are eight ASCII digits, YYYYMMDD, and give the date. -/
structure DateDigits (bytes : List UInt8) (c : Civil) : Prop where
  length : bytes.length = 8
  digits : ∀ b ∈ bytes, 48 ≤ b.toNat ∧ b.toNat ≤ 57
  year : c.year = asciiNumber (bytes.take 4)
  month : c.month = asciiNumber ((bytes.drop 4).take 2)
  day : c.day = asciiNumber (bytes.drop 6)

/-- The first eight bytes of the value are the digits of the date of the day. -/
def Stamped (v : List Char) (d : Day) : Prop := DateDigits ((encode v).take 8) d.civil

/-- The first eight bytes of the value, with blanks or signs among them, spell the date of the day. -/
def Loose (v : List Char) (d : Day) : Prop :=
  ∃ cut rest, v = cut ++ rest ∧ (encode cut).length = 8 ∧ (∃ c ∈ cut, IsLoose c) ∧ Spells cut d.civil

theorem length_encode_cons (c : Char) (s : List Char) :
    (encode (c :: s)).length = c.utf8Size + (encode s).length := by
  rw [encode, List.flatMap_cons, List.length_append, String.length_utf8EncodeChar]
  rfl

theorem length_encode_pos (c : Char) (s : List Char) : 0 < (encode (c :: s)).length := by
  have hsize := c.utf8Size_pos
  rw [length_encode_cons]
  omega

/-- A text begins with that many bytes if a character ends there. -/
theorem takeBytes_iff {n : Nat} {s t : List Char} :
    takeBytes n s = some t ↔ ∃ rest, s = t ++ rest ∧ (encode t).length = n := by
  fun_induction takeBytes n s generalizing t with
  | case1 s =>
    constructor
    · rintro ⟨⟩
      exact ⟨s, rfl, rfl⟩
    · rintro ⟨rest, rfl, hlen⟩
      cases t with
      | nil => rfl
      | cons c t => exact absurd hlen (Nat.ne_of_gt (length_encode_pos c t))
  | case2 n =>
    refine ⟨fun h => (by cases h), fun ⟨rest, hs, hlen⟩ => ?_⟩
    obtain ⟨rfl, -⟩ := List.append_eq_nil_iff.mp hs.symm
    cases hlen
  | case3 n c s hfits ih =>
    rw [Option.map_eq_some_iff]
    constructor
    · rintro ⟨u, hu, rfl⟩
      obtain ⟨rest, rfl, hlen⟩ := ih.mp hu
      exact ⟨rest, rfl, by rw [length_encode_cons]; omega⟩
    · rintro ⟨rest, hs, hlen⟩
      cases t with
      | nil => cases hlen
      | cons d t =>
        obtain ⟨rfl, rfl⟩ := List.cons.inj hs
        rw [length_encode_cons] at hlen
        exact ⟨t, ih.mpr ⟨rest, rfl, by omega⟩, rfl⟩
  | case4 n c s hfits =>
    refine ⟨fun h => (by cases h), fun ⟨rest, hs, hlen⟩ => ?_⟩
    cases t with
    | nil => cases hlen
    | cons d t =>
      obtain ⟨rfl, -⟩ := List.cons.inj hs
      rw [length_encode_cons] at hlen
      omega

/-- A text begins with that many bytes in one way only. -/
theorem cut_unique {cut cut' rest rest' : List Char} (h : cut ++ rest = cut' ++ rest')
    (hlen : (encode cut).length = (encode cut').length) : cut = cut' := by
  have htake : takeBytes (encode cut).length (cut ++ rest) = some cut :=
    takeBytes_iff.mpr ⟨rest, rfl, rfl⟩
  rw [takeBytes_iff.mpr ⟨rest', h, hlen.symm⟩] at htake
  exact (Option.some.inj htake).symm

theorem stampDay?_iff {v : List Char} {d : Day} : stampDay? v = some d ↔
    ∃ cut rest, v = cut ++ rest ∧ (encode cut).length = 8 ∧ Spells cut d.civil := by
  have hread : ∀ s, (Day.readStamp s).toOption = some d ↔ Spells s d.civil := fun s => by
    rw [← Day.readStamp_iff]
    cases Day.readStamp s <;> simp [Except.toOption]
  simp only [stampDay?, Option.bind_eq_some_iff, takeBytes_iff, hread]
  constructor
  · rintro ⟨cut, ⟨rest, hv, hlen⟩, hspells⟩
    exact ⟨cut, rest, hv, hlen, hspells⟩
  · rintro ⟨cut, rest, hv, hlen, hspells⟩
    exact ⟨cut, ⟨rest, hv, hlen⟩, hspells⟩

/-! ## Eight digits -/

theorem encode_append (s t : List Char) : encode (s ++ t) = encode s ++ encode t :=
  List.flatMap_append

/-- The bytes of digits. -/
theorem encode_digits {s : List Char} (h : ∀ c ∈ s, c.isDigit = true) :
    encode s = s.map fun c => UInt8.ofNat c.toNat :=
  Text.Utf8.encode_ascii fun c hc => utf8Size_of_isDigit (h c hc)

theorem toNat_byte_of_isDigit {c : Char} (h : c.isDigit = true) :
    (UInt8.ofNat c.toNat).toNat = c.toNat := by
  have hc := Text.toNat_of_isDigit h
  exact Text.Utf8.toNat_ofNat (by omega)

theorem asciiNumber_encode {ds : List Char} {n : Nat} (h : Numeral ds n) :
    asciiNumber (encode ds) = n := by
  rw [asciiNumber, encode_digits h.digits, List.map_map, ← h.value]
  refine congrArg _ (List.map_congr_left fun c hc => ?_)
  exact congrArg (· - 48) (toNat_byte_of_isDigit (h.digits c hc))

/-- The characters of the bytes of digits. -/
theorem numeral_ofNat {bytes : List UInt8} (hne : bytes ≠ [])
    (h : ∀ b ∈ bytes, 48 ≤ b.toNat ∧ b.toNat ≤ 57) :
    Numeral (bytes.map fun b => Char.ofNat b.toNat) (asciiNumber bytes) := by
  have hchar : ∀ b ∈ bytes, (Char.ofNat b.toNat).isDigit = true ∧
      (Char.ofNat b.toNat).toNat - '0'.toNat = b.toNat - 48 := fun b hb => by
    have hall : ∀ n < 58, 48 ≤ n → (Char.ofNat n).isDigit = true ∧
        (Char.ofNat n).toNat - '0'.toNat = n - 48 := by decide
    have hb' := h b hb
    exact hall b.toNat (by omega) hb'.1
  refine ⟨by simpa using hne, fun c hc => ?_, ?_⟩
  · obtain ⟨b, hb, rfl⟩ := List.mem_map.mp hc
    exact (hchar b hb).1
  · rw [asciiNumber, List.map_map]
    exact congrArg _ (List.map_congr_left fun b hb => (hchar b hb).2)

theorem DateDigits.plainStamp {bytes : List UInt8} {c : Civil} (h : DateDigits bytes c) :
    PlainStamp (bytes.map fun b => Char.ofNat b.toNat) c := by
  have hparts : bytes = bytes.take 4 ++ ((bytes.drop 4).take 2 ++ bytes.drop 6) := by
    have hrest : bytes.drop 6 = (bytes.drop 4).drop 2 := by rw [List.drop_drop]
    rw [hrest, List.take_append_drop, List.take_append_drop]
  have hnumeral : ∀ part, part ≠ [] → (∀ b ∈ part, b ∈ bytes) →
      Numeral (part.map fun b => Char.ofNat b.toNat) (asciiNumber part) := fun part hne hpart =>
    numeral_ofNat hne fun b hb => h.digits b (hpart b hb)
  have hlen := h.length
  have hyear : (bytes.take 4).length = 4 := by rw [List.length_take]; omega
  have hmonth : ((bytes.drop 4).take 2).length = 2 := by
    rw [List.length_take, List.length_drop]
    omega
  have hday : (bytes.drop 6).length = 2 := by rw [List.length_drop]; omega
  obtain ⟨year, month, day⟩ := c
  obtain rfl := h.year
  obtain rfl := h.month
  obtain rfl := h.day
  have hstamp := PlainStamp.mk
    (hnumeral (bytes.take 4) (List.ne_nil_of_length_pos (by omega)) fun b => List.mem_of_mem_take)
    (by rw [List.length_map, hyear])
    (hnumeral ((bytes.drop 4).take 2) (List.ne_nil_of_length_pos (by omega))
      fun b hb => List.mem_of_mem_drop (List.mem_of_mem_take hb))
    (by rw [List.length_map, hmonth])
    (hnumeral (bytes.drop 6) (List.ne_nil_of_length_pos (by omega)) fun b => List.mem_of_mem_drop)
    (by rw [List.length_map, hday])
  rwa [← List.map_append, ← List.map_append, ← hparts] at hstamp

theorem dateDigits_encode {s : List Char} {c : Civil} (h : PlainStamp s c)
    (hlen : s.length = 8) : DateDigits (encode s) c := by
  have hdigits := h.isDigit
  obtain @⟨t, m, n, year, month, day, ht, ht4, hm, hm2, hn, -⟩ := h
  have hsize : ∀ {ds : List Char} {n : Nat}, Numeral ds n → (encode ds).length = ds.length :=
    fun h => by rw [encode_digits h.digits, List.length_map]
  have hyear : (encode t).length = 4 := (hsize ht).trans ht4
  have hmonth : (encode m).length = 2 := (hsize hm).trans hm2
  have hdrop : (encode (t ++ (m ++ n))).drop 4 = encode m ++ encode n := by
    rw [encode_append, encode_append, List.drop_left' hyear]
  refine ⟨?_, fun b hb => ?_, ?_, ?_, ?_⟩
  · rw [encode_digits hdigits, List.length_map, hlen]
  · rw [encode_digits hdigits] at hb
    obtain ⟨c, hc, rfl⟩ := List.mem_map.mp hb
    rw [toNat_byte_of_isDigit (hdigits c hc)]
    exact Text.toNat_of_isDigit (hdigits c hc)
  · rw [encode_append, List.take_left' hyear, asciiNumber_encode ht]
  · rw [hdrop, List.take_left' hmonth, asciiNumber_encode hm]
  · have hrest : (encode (t ++ (m ++ n))).drop 6 = encode n := by
      rw [← List.drop_drop (i := 2) (j := 4), hdrop, List.drop_left' hmonth]
    rw [hrest, asciiNumber_encode hn]

/-- The first bytes of a value are eight digits exactly if a stamp of eight digits stands there. -/
theorem dateDigits_iff {v : List Char} {c : Civil} : DateDigits ((encode v).take 8) c ↔
    ∃ s rest, v = s ++ rest ∧ s.length = 8 ∧ PlainStamp s c := by
  constructor
  · intro h
    have hascii : ∀ b ∈ (encode v).take 8, b.toNat < 0x80 := fun b hb => by
      have hb' := h.digits b hb
      omega
    obtain ⟨rest, hv⟩ := Text.Utf8.exists_eq_append hascii
    exact ⟨_, rest, hv, by rw [List.length_map, h.length], h.plainStamp⟩
  · rintro ⟨s, rest, rfl, hlen, hs⟩
    have hdate := dateDigits_encode hs hlen
    rwa [encode_append, List.take_left' hdate.length]

/-- A value that begins with eight digits is read as the day with their date. -/
theorem stampDay?_of_dateDigits {v : List Char} {c : Civil} (h : DateDigits ((encode v).take 8) c)
    {d : Day} : stampDay? v = some d ↔ d.civil = c := by
  obtain ⟨s, rest, rfl, hlen, hs⟩ := dateDigits_iff.mp h
  have hbytes := (dateDigits_encode hs hlen).length
  rw [stampDay?_iff]
  constructor
  · rintro ⟨cut, rest', hv, hcut, hspells⟩
    obtain rfl := cut_unique hv (hbytes.trans hcut.symm)
    exact (Day.plainStamp_iff.mpr ⟨hspells, (Day.plainStamp_iff.mp hs).2⟩).unique hs
  · rintro rfl
    exact ⟨s, rest, rfl, hbytes, (Day.plainStamp_iff.mp hs).1⟩

/-! ## All values -/

theorem stampDay?_iff_stamped {v : List Char} {d : Day} :
    stampDay? v = some d ↔ Stamped v d ∨ Loose v d := by
  constructor
  · intro h
    obtain ⟨cut, rest, rfl, hlen, hspells⟩ := stampDay?_iff.mp h
    by_cases hloose : ∃ c ∈ cut, IsLoose c
    · exact .inr ⟨cut, rest, rfl, hlen, hloose, hspells⟩
    · have hplain := Day.plainStamp_iff.mpr ⟨hspells, fun c hc hl => hloose ⟨c, hc, hl⟩⟩
      rw [encode_digits hplain.isDigit, List.length_map] at hlen
      exact .inl (dateDigits_iff.mpr ⟨cut, rest, rfl, hlen, hplain⟩)
  · rintro (h | ⟨cut, rest, hv, hlen, -, hspells⟩)
    · exact (stampDay?_of_dateDigits h).mpr rfl
    · exact stampDay?_iff.mpr ⟨cut, rest, hv, hlen, hspells⟩

/-- Where eight digits stand there is no blank and no sign. -/
theorem Stamped.not_loose {v : List Char} {d e : Day} (h : Stamped v d) : ¬ Loose v e := by
  rintro ⟨cut, rest, rfl, hlen, ⟨c, hc, hloose⟩, -⟩
  obtain ⟨s, rest', hs, hlength, hplain⟩ := dateDigits_iff.mp h
  obtain rfl := cut_unique hs (hlen.trans (dateDigits_encode hplain hlength).length.symm)
  exact (Day.plainStamp_iff.mp hplain).2 c hc hloose

theorem DateDigits.year_bounds {v : List Char} {c : Civil} (h : DateDigits ((encode v).take 8) c) :
    0 ≤ c.year ∧ c.year ≤ 9999 := by
  obtain ⟨s, rest, -, -, hs⟩ := dateDigits_iff.mp h
  cases hs with
  | mk ht ht4 _ _ _ _ =>
    have hlt := ht.lt
    rw [ht4] at hlt
    dsimp only
    omega

/-! ## Events -/

def Readable (v : List Char) : Prop := ∃ d, Stamped v d ∨ Loose v d

def GivesDate (line v : List Char) : Prop := Says line "DTSTART" v ∨ Says line "DTEND" v

def AllReadable (body : List (List Char)) : Prop :=
  ∀ line ∈ body, ∀ v, GivesDate line v → Readable v

theorem not_malformed_iff {body : List (List Char)} :
    (eventOf body).malformed = false ↔ AllReadable body := by
  simp only [malformed_eventOf, stampDay?_iff_stamped]
  rfl

/-- The periods of the events are those of the events whose dates can all be read. -/
theorem exists_readable (lines : List (List Char)) : ∃ evs,
    Lists (fun i j => IsEvent lines i j ∧ AllReadable (linesBetween lines i j)) evs ∧
      periodsFrom none (lines.map markOf) =
        evs.filterMap fun e => (eventOf (linesBetween lines e.1 e.2)).period? := by
  obtain ⟨evs, hevs, hperiods⟩ := exists_events lines
  refine ⟨evs.filter fun e => !(eventOf (linesBetween lines e.1 e.2)).malformed,
    ⟨hevs.ordered.filter _, fun i j => ?_⟩, ?_⟩
  · rw [List.mem_filter, hevs.mem_iff, Bool.not_eq_true', not_malformed_iff]
  · rw [hperiods, List.filterMap_filter]
    refine List.filterMap_congr fun e _ => ?_
    split
    · rfl
    · next hmalformed =>
      have hmalformed : (eventOf (linesBetween lines e.1 e.2)).malformed = true := by
        simpa using hmalformed
      rw [Event.period?, hmalformed, Bool.or_true, if_pos rfl]

/-- A value is a date if it begins with the eight digits of a date of the calendar, which is then that of
the day, or with a loose spelling, and only without the latter are dates read from eight digits alone. Any
other value under the name of a date makes its event malformed, and the periods of a document are those of
its other events. -/
theorem dates_exact (v : List Char) (s : String) :
    (∀ d, stampDay? v = some d ↔ Stamped v d ∨ Loose v d) ∧
    ((∀ d, stampDay? v = some d ↔ Stamped v d) ↔ ∀ d, ¬ Loose v d) ∧
    (∀ c, DateDigits ((encode v).take 8) c → ((∃ d, stampDay? v = some d) ↔ c.exists? = true)) ∧
    (∀ body, (eventOf body).malformed = true ↔
      ∃ line ∈ body, ∃ u, GivesDate line u ∧ ¬ Readable u) ∧
    ∀ ps, readDocument s = .ok ps → ∃ evs,
      Lists (fun i j => IsEvent (logicalLines s.toList) i j ∧
        AllReadable (linesBetween (logicalLines s.toList) i j)) evs ∧
      ps = evs.filterMap fun e => (eventOf (linesBetween (logicalLines s.toList) e.1 e.2)).period? := by
  refine ⟨fun d => stampDay?_iff_stamped, ⟨fun h d hloose => ?_, fun h d => ?_⟩, fun c h => ?_,
    fun body => ?_, fun ps h => ?_⟩
  · have hstamped : Stamped v d := (h d).mp (stampDay?_iff_stamped.mpr (.inr hloose))
    exact hstamped.not_loose hloose
  · rw [stampDay?_iff_stamped]
    exact or_iff_left (h d)
  · simp only [stampDay?_of_dateDigits h]
    exact Day.exists_civil_iff h.year_bounds
  · rw [← Bool.not_eq_false, not_malformed_iff]
    simp only [AllReadable, not_forall, exists_prop]
  · rw [periods_of_readDocument h]
    exact exists_readable _

def leapNights : Period :=
  ⟨⟨Civil.number ⟨2028, 2, 28⟩, by decide⟩, ⟨Civil.number ⟨2028, 3, 1⟩, by decide⟩⟩

/-- Two events, of which one has a start with dashes. -/
def dashedStart : String :=
  "BEGIN:VCALENDAR\nBEGIN:VEVENT\nDTSTART:20280228T150000Z\nDTEND:20280301\nEND:VEVENT\n" ++
    "BEGIN:VEVENT\nDTSTART:2025-10-20\nDTEND:20251022\nEND:VEVENT\nEND:VCALENDAR\n"

theorem dashed_left_out :
    DateDigits ((encode "20280228T150000Z".toList).take 8) ⟨2028, 2, 28⟩ ∧
    (∃ d, stampDay? "20280228T150000Z".toList = some d) ∧
    readDocument dashedStart = .ok [leapNights] ∧ ∃ evs,
      Lists (fun i j => IsEvent (logicalLines dashedStart.toList) i j ∧
        AllReadable (linesBetween (logicalLines dashedStart.toList) i j)) evs ∧
      [leapNights] = evs.filterMap fun e =>
        (eventOf (linesBetween (logicalLines dashedStart.toList) e.1 e.2)).period? := by
  have hdigits : DateDigits ((encode "20280228T150000Z".toList).take 8) ⟨2028, 2, 28⟩ :=
    ⟨by decide, by decide +kernel, by decide, by decide, by decide⟩
  have hread : readDocument dashedStart = .ok [leapNights] := by decide +kernel
  obtain ⟨-, -, hexists, -, hperiods⟩ := dates_exact "20280228T150000Z".toList dashedStart
  exact ⟨hdigits, (hexists _ hdigits).mpr rfl, hread, hperiods _ hread⟩

/-- A blank is let through in the place of a digit, so a booking counts although its start is not a
date of eight digits. -/
theorem blanks_read : (∀ d, ¬ Stamped "2025 7 1".toList d) ∧
    stampDay? "2025 7 1".toList = some ⟨Civil.number ⟨2025, 7, 1⟩, by decide⟩ ∧
    readDocument "BEGIN:VCALENDAR\nBEGIN:VEVENT\nDTSTART:2025 7 1\nEND:VEVENT\nEND:VCALENDAR\n" =
      .ok [⟨⟨Civil.number ⟨2025, 7, 1⟩, by decide⟩, ⟨Civil.number ⟨2025, 7, 2⟩, by decide⟩⟩] := by
  refine ⟨fun d h => ?_, by decide +kernel, by decide +kernel⟩
  have hblank : 48 ≤ (32 : UInt8).toNat := (h.digits 32 (by decide)).1
  exact absurd hblank (by decide)

end Lodging.Calendar
