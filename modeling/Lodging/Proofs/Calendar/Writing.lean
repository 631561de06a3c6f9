import Lodging.Proofs.Calendar.Events
import Lodging.Proofs.Calendar.Folding
import Lodging.Proofs.Day.Writing

/-! # Calendars read back

A calendar that is written for a list of periods is read as that list. For every period it has an event
with the dates of its two ends, in either order and among lines that do not count; a date is written
with or without parameters, in whose quoted parts everything may stand, and with or without a time.
Lines may be folded anywhere. -/

namespace Lodging.Calendar

/-! ## What is written -/

/-- Text before a separator: quoted parts, and outside of them no quotes and no colons. -/
inductive Heading : List Char → Prop
  | nil : Heading []
  | char {c : Char} {s : List Char} : c ≠ '"' → c ≠ ':' → Heading s → Heading (c :: s)
  | quoted {q s : List Char} : '"' ∉ q → Heading s → Heading ('"' :: (q ++ '"' :: s))

def IsParameters (s : List Char) : Prop :=
  s = [] ∨ ∃ rest, s = ';' :: rest ∧ Heading rest ∧ Unbroken rest

/-- Nothing, or a time of six digits that may be in universal time. -/
def IsTime (s : List Char) : Prop :=
  s = [] ∨ ∃ digits zone, s = 'T' :: (digits ++ zone) ∧ digits.length = 6 ∧
    (∀ c ∈ digits, c.isDigit = true) ∧ (zone = [] ∨ zone = ['Z'])

def Gives (line : List Char) (name : String) (d : Day) : Prop :=
  ∃ parameters time, IsParameters parameters ∧ IsTime time ∧
    line = name.toList ++ parameters ++ ':' :: (d.stamp ++ time)

/-- The line is none of those that make up events. -/
structure Aside (line : List Char) : Prop where
  foldable : Foldable line
  name : ∀ name ∈ ["BEGIN", "END", "DTSTART", "DTEND", "STATUS"], ∀ v, ¬ Says line name v

def WritesEvent (p : Period) (lines : List (List Char)) : Prop :=
  ∃ before first between second after,
    lines = "BEGIN:VEVENT".toList ::
      (before ++ first :: (between ++ second :: (after ++ ["END:VEVENT".toList]))) ∧
    (∀ line ∈ before ++ between ++ after, Aside line) ∧
    (Gives first "DTSTART" p.start ∧ Gives second "DTEND" p.stop ∨
      Gives first "DTEND" p.stop ∧ Gives second "DTSTART" p.start)

inductive WritesEvents : List Period → List (List Char) → Prop
  | nil : WritesEvents [] []
  | aside {ps : List Period} {line : List Char} {lines : List (List Char)} : Aside line →
      WritesEvents ps lines → WritesEvents ps (line :: lines)
  | event {p : Period} {ps : List Period} {event lines : List (List Char)} : WritesEvent p event →
      WritesEvents ps lines → WritesEvents (p :: ps) (event ++ lines)

def WritesCalendar (ps : List Period) (lines : List (List Char)) : Prop :=
  ∃ body, WritesEvents ps body ∧
    lines = "BEGIN:VCALENDAR".toList :: (body ++ ["END:VCALENDAR".toList])

/-! ## Lines with dates -/

/-- Quotes come in pairs, and colons stand between the two of a pair. -/
theorem Heading.colons {s : List Char} (h : Heading s) : s.count '"' % 2 = 0 ∧
    ∀ before after, s = before ++ ':' :: after → before.count '"' % 2 = 1 := by
  induction h with
  | nil => exact ⟨rfl, fun before after h => by simp at h⟩
  | @char c s hquote hcolon _ ih =>
    refine ⟨by simpa [List.count_cons, hquote] using ih.1, fun before after h => ?_⟩
    cases before with
    | nil => exact absurd (List.cons.inj h).1 hcolon
    | cons d before =>
      obtain ⟨rfl, hs⟩ := List.cons.inj h
      simpa [List.count_cons, hquote] using ih.2 before after hs
  | @quoted q s hq _ ih =>
    have hcount : q.count '"' = 0 := List.count_eq_zero.mpr hq
    refine ⟨?_, fun before after h => ?_⟩
    · simp only [List.count_cons, List.count_append, hcount, beq_self_eq_true, if_true]
      omega
    · cases before with
      | nil => simp at h
      | cons d before =>
        obtain ⟨rfl, hs⟩ := List.cons.inj h
        rcases List.append_eq_append_iff.mp hs with ⟨rest, hbefore, hrest⟩ | ⟨rest, hbefore, hrest⟩
        · cases rest with
          | nil => simp at hrest
          | cons d rest =>
            obtain ⟨rfl, hs⟩ := List.cons.inj hrest
            have := ih.2 rest after hs
            simp only [hbefore, List.count_cons, List.count_append, hcount, beq_self_eq_true, if_true]
            omega
        · have hzero : before.count '"' = 0 := by
            rw [hbefore, List.count_append] at hcount
            omega
          simp [hzero]

theorem Heading.append {s t : List Char} (hs : ∀ c ∈ s, c ≠ '"' ∧ c ≠ ':') (ht : Heading t) :
    Heading (s ++ t) := by
  induction s with
  | nil => exact ht
  | cons c s ih =>
    obtain ⟨⟨hquote, hcolon⟩, hs⟩ := List.forall_mem_cons.mp hs
    exact .char hquote hcolon (ih hs)

theorem Heading.separated {head : List Char} (h : Heading head) (value : List Char) :
    Separated false (head ++ ':' :: value) head value where
  eq := rfl
  outside := by simpa using h.colons.1
  first := fun before after he => by simpa using h.colons.2 before after he

/-- A name of capital letters has no character that means something in a line. -/
theorem of_isUpper {c : Char} (h : c.isUpper = true) :
    (c ≠ '"' ∧ c ≠ ':') ∧ c ≠ ';' ∧ c ≠ '\r' ∧ c ≠ '\n' ∧ Text.isBlank c = false := by
  have hc : 65 ≤ c.toNat ∧ c.toNat ≤ 90 := by
    unfold Char.isUpper at h
    simpa [UInt32.le_iff_toNat_le] using h
  have hne : ∀ d : Char, d.toNat < 65 → c ≠ d := fun d hd he => by
    rw [he] at hc
    omega
  refine ⟨⟨hne _ (by decide), hne _ (by decide)⟩, hne _ (by decide), hne _ (by decide),
    hne _ (by decide), ?_⟩
  simp only [Text.isBlank, Bool.or_eq_false_iff, Bool.and_eq_false_iff, decide_eq_false_iff_not,
    beq_eq_false_iff_ne]
  omega

theorem IsParameters.heading {s : List Char} (h : IsParameters s) : Heading s := by
  rcases h with rfl | ⟨rest, rfl, hrest, -⟩
  · exact .nil
  · exact .char (by decide) (by decide) hrest

theorem IsParameters.unbroken {s : List Char} (h : IsParameters s) : Unbroken s := by
  rcases h with rfl | ⟨rest, rfl, -, hr, hn⟩
  · exact ⟨List.not_mem_nil, List.not_mem_nil⟩
  · exact ⟨by simpa using hr, by simpa using hn⟩

/-- The value of a date line has digits in it, and letters. -/
theorem value_char {d : Day} {time : List Char} (h : IsTime time) :
    ∀ c ∈ d.stamp ++ time, c.isDigit = true ∨ c = 'T' ∨ c = 'Z' := by
  intro c hc
  rcases List.mem_append.mp hc with hc | hc
  · exact .inl (Day.isDigit_of_mem_stamp hc)
  · rcases h with rfl | ⟨digits, zone, rfl, -, hdigits, hzone⟩
    · cases hc
    · rcases List.mem_cons.mp hc with rfl | hc
      · exact .inr (.inl rfl)
      · rcases List.mem_append.mp hc with hc | hc
        · exact .inl (hdigits c hc)
        · rcases hzone with rfl | rfl
          · cases hc
          · exact .inr (.inr (List.mem_singleton.mp hc))

theorem isBlank_of_value {c : Char} (h : c.isDigit = true ∨ c = 'T' ∨ c = 'Z') :
    Text.isBlank c = false := by
  rcases h with h | rfl | rfl
  · exact Text.isBlank_of_isDigit h
  · rfl
  · rfl

theorem takeWhile_name {name parameters : List Char} (hname : ∀ c ∈ name, c ≠ ';')
    (h : IsParameters parameters) : (name ++ parameters).takeWhile (· != ';') = name := by
  rw [List.takeWhile_append_of_pos fun c hc => by simpa using hname c hc]
  rcases h with rfl | ⟨rest, rfl, -, -⟩ <;> simp

section

variable {line : List Char} {name : String} {d : Day}

/-- A line with a date says what it gives. -/
theorem Gives.says (h : Gives line name d) (hname : ∀ c ∈ name.toList, c.isUpper = true)
    (hd : d.FourDigits) : ∃ v, Says line name v ∧ stampDay? v = some d := by
  obtain ⟨parameters, time, hparameters, htime, rfl⟩ := h
  refine ⟨d.stamp ++ time, ⟨name.toList ++ parameters, d.stamp ++ time, ?_, ?_, ?_⟩,
    stampDay?_stamp hd time⟩
  · exact (hparameters.heading.append fun c hc => (of_isUpper (hname c hc)).1).separated _
  · rw [takeWhile_name (fun c hc => (of_isUpper (hname c hc)).2.1) hparameters,
      Text.trim_eq_self_of_forall fun c hc => (of_isUpper (hname c hc)).2.2.2.2]
    exact Text.sameAscii_refl _
  · exact (Text.trim_eq_self_of_forall fun c hc => isBlank_of_value (value_char htime c hc)).symm

theorem Gives.foldable (h : Gives line name d) (hname : ∀ c ∈ name.toList, c.isUpper = true)
    (hne : name.toList ≠ []) : Foldable line := by
  obtain ⟨parameters, time, hparameters, htime, rfl⟩ := h
  have hbreak : ∀ c : Char, c = '\r' ∨ c = '\n' →
      c ∉ name.toList ++ parameters ++ ':' :: (d.stamp ++ time) := by
    intro c hc hmem
    rw [List.mem_append, List.mem_append, List.mem_cons] at hmem
    rcases hmem with (hmem | hmem) | rfl | hmem
    · obtain ⟨-, -, hr, hn, -⟩ := of_isUpper (hname c hmem)
      exact hc.elim hr hn
    · rcases hc with rfl | rfl
      · exact hparameters.unbroken.1 hmem
      · exact hparameters.unbroken.2 hmem
    · exact absurd hc (by decide)
    · rcases hc with rfl | rfl <;> exact absurd (value_char htime _ hmem) (by decide)
  refine ⟨⟨hbreak _ (.inl rfl), hbreak _ (.inr rfl)⟩, fun c hc => ?_⟩
  cases hchars : name.toList with
  | nil => exact absurd hchars hne
  | cons a rest =>
    rw [hchars] at hc
    obtain rfl : a = c := Option.some.inj hc
    have hblank := (of_isUpper (hname a (hchars ▸ List.mem_cons_self))).2.2.2.2
    have hfold : ∀ c : Char, isFold c = true → Text.isBlank c = true := fun c hc => by
      simp only [isFold, Bool.or_eq_true, beq_iff_eq] at hc
      rcases hc with rfl | rfl <;> rfl
    exact Bool.eq_false_iff.mpr fun hf => by
      rw [hfold a hf] at hblank
      cases hblank

end

/-! ## Events -/

theorem Aside.markOf {line : List Char} (h : Aside line) : Calendar.markOf line = .other := by
  refine markOf_iff.mpr ⟨?_, ?_, h.name _ (by simp), h.name _ (by simp), ?_⟩
  · rintro ⟨v, hv, -⟩
    exact h.name "BEGIN" (by simp) v hv
  · rintro ⟨v, hv, -⟩
    exact h.name "END" (by simp) v hv
  · rintro ⟨v, hv, -⟩
    exact h.name "STATUS" (by simp) v hv

theorem periodsFrom_asides {lines : List (List Char)} (h : ∀ line ∈ lines, Aside line)
    (open? : Option Event) (rest : List Mark) :
    periodsFrom open? (lines.map markOf ++ rest) = periodsFrom open? rest := by
  induction lines with
  | nil => rfl
  | cons line lines ih =>
    obtain ⟨hline, hlines⟩ := List.forall_mem_cons.mp h
    rw [List.map_cons, hline.markOf, List.cons_append, periodsFrom_cons (by simp) (by simp)]
    have hsame : open?.map (·.add .other) = open? := by cases open? <;> rfl
    rw [hsame, ih hlines]

theorem isUpper_names : (∀ c ∈ "DTSTART".toList, c.isUpper = true) ∧
    ∀ c ∈ "DTEND".toList, c.isUpper = true :=
  ⟨List.all_eq_true.mp (by decide), List.all_eq_true.mp (by decide)⟩

/-- The lines with the two dates, in either order, make up an event from the one to the other. -/
theorem add_dates {p : Period} {first second : List Char}
    (h : Gives first "DTSTART" p.start ∧ Gives second "DTEND" p.stop ∨
      Gives first "DTEND" p.stop ∧ Gives second "DTSTART" p.start)
    (hstart : p.start.FourDigits) (hstop : p.stop.FourDigits) :
    (∀ line ∈ [first, second], markOf line ≠ .opens ∧ markOf line ≠ .closes) ∧
      (Event.empty.add (markOf first)).add (markOf second) =
        ⟨some p.start, some p.stop, false, false⟩ := by
  have hstarts : ∀ {line : List Char}, Gives line "DTSTART" p.start →
      ∃ v, markOf line = .starts v ∧ stampDay? v = some p.start := fun h => by
    obtain ⟨v, hv, hd⟩ := h.says isUpper_names.1 hstart
    exact ⟨v, markOf_eq_starts.mpr hv, hd⟩
  have hends : ∀ {line : List Char}, Gives line "DTEND" p.stop →
      ∃ v, markOf line = .ends v ∧ stampDay? v = some p.stop := fun h => by
    obtain ⟨v, hv, hd⟩ := h.says isUpper_names.2 hstop
    exact ⟨v, markOf_eq_ends.mpr hv, hd⟩
  rcases h with ⟨h₁, h₂⟩ | ⟨h₁, h₂⟩
  · obtain ⟨u, hu, hud⟩ := hstarts h₁
    obtain ⟨v, hv, hvd⟩ := hends h₂
    simp [hu, hv, Event.add, hud, hvd, Event.empty]
  · obtain ⟨u, hu, hud⟩ := hends h₁
    obtain ⟨v, hv, hvd⟩ := hstarts h₂
    simp [hu, hv, Event.add, hud, hvd, Event.empty]

/-- An event that is written for a period is read as that period. -/
theorem WritesEvent.periodsFrom {p : Period} {lines : List (List Char)} (h : WritesEvent p lines)
    (hp : p.start < p.stop) (hstart : p.start.FourDigits) (hstop : p.stop.FourDigits)
    (open? : Option Event) (rest : List Mark) :
    Calendar.periodsFrom open? (lines.map Calendar.markOf ++ rest) =
      p :: Calendar.periodsFrom none rest := by
  obtain ⟨before, first, between, second, after, rfl, hasides, hdates⟩ := h
  obtain ⟨hinside, hevent⟩ := add_dates hdates hstart hstop
  obtain ⟨hfirst, hfirst'⟩ := hinside first (by simp)
  obtain ⟨hsecond, hsecond'⟩ := hinside second (by simp)
  have hopens : markOf "BEGIN:VEVENT".toList = .opens := by decide
  have hcloses : markOf "END:VEVENT".toList = .closes := by decide
  simp only [List.forall_mem_append] at hasides
  obtain ⟨⟨hbefore, hbetween⟩, hafter⟩ := hasides
  simp only [List.map_cons, List.map_append, List.cons_append, List.append_assoc, List.map_nil,
    List.nil_append, hopens, hcloses]
  rw [Calendar.periodsFrom, periodsFrom_asides hbefore, periodsFrom_cons hfirst hfirst',
    periodsFrom_asides hbetween, periodsFrom_cons hsecond hsecond', periodsFrom_asides hafter,
    periodsFrom_closes, Option.map_some, Option.map_some, hevent]
  simp [Event.period?, hp]

theorem WritesEvent.foldable {p : Period} {lines : List (List Char)} (h : WritesEvent p lines) :
    ∀ line ∈ lines, Foldable line := by
  obtain ⟨before, first, between, second, after, rfl, hasides, hdates⟩ := h
  have hopens : Foldable "BEGIN:VEVENT".toList := by decide
  have hcloses : Foldable "END:VEVENT".toList := by decide
  have hgives : Foldable first ∧ Foldable second := by
    rcases hdates with ⟨h₁, h₂⟩ | ⟨h₁, h₂⟩
    · exact ⟨h₁.foldable isUpper_names.1 (by decide), h₂.foldable isUpper_names.2 (by decide)⟩
    · exact ⟨h₁.foldable isUpper_names.2 (by decide), h₂.foldable isUpper_names.1 (by decide)⟩
  intro line hline
  simp only [List.mem_cons, List.mem_append, List.not_mem_nil, or_false] at hline
  rcases hline with rfl | hline | rfl | hline | rfl | hline | rfl
  · exact hopens
  · exact (hasides line (by simp [hline])).foldable
  · exact hgives.1
  · exact (hasides line (by simp [hline])).foldable
  · exact hgives.2
  · exact (hasides line (by simp [hline])).foldable
  · exact hcloses

/-! ## Calendars -/

theorem WritesEvents.foldable {ps : List Period} {lines : List (List Char)}
    (h : WritesEvents ps lines) : ∀ line ∈ lines, Foldable line := by
  induction h with
  | nil => exact fun _ hline => absurd hline List.not_mem_nil
  | aside hline _ ih => exact List.forall_mem_cons.mpr ⟨hline.foldable, ih⟩
  | event hevent _ ih => exact List.forall_mem_append.mpr ⟨hevent.foldable, ih⟩

theorem WritesEvents.periodsFrom {ps : List Period} {lines : List (List Char)}
    (h : WritesEvents ps lines)
    (hps : ∀ p ∈ ps, p.start < p.stop ∧ p.start.FourDigits ∧ p.stop.FourDigits) (rest : List Mark) :
    Calendar.periodsFrom none (lines.map markOf ++ rest) = ps ++ Calendar.periodsFrom none rest := by
  induction h with
  | nil => rfl
  | @aside ps line lines hline _ ih =>
    have hasides : ∀ l ∈ [line], Aside l := by simpa using hline
    rw [← ih hps]
    exact periodsFrom_asides hasides none (lines.map markOf ++ rest)
  | @event p ps event lines hevent _ ih =>
    obtain ⟨⟨hp, hstart, hstop⟩, hps⟩ := List.forall_mem_cons.mp hps
    rw [List.map_append, List.append_assoc, hevent.periodsFrom hp hstart hstop, ih hps,
      List.cons_append]

/-- A calendar that is written for some periods is read as these periods, however its lines are folded
and ended. -/
theorem readDocument_written {ps : List Period}
    (hps : ∀ p ∈ ps, p.start < p.stop ∧ p.start.FourDigits ∧ p.stop.FourDigits)
    {lines : List (List Char)} (hlines : WritesCalendar ps lines) {s : String}
    (hs : Written lines s.toList) : readDocument s = .ok ps := by
  obtain ⟨body, hbody, rfl⟩ := hlines
  have hbegin : Foldable "BEGIN:VCALENDAR".toList := by decide
  have hend : Foldable "END:VCALENDAR".toList := by decide
  have hlogical := logicalLines_written hs fun line hline => by
    simp only [List.mem_cons, List.mem_append, List.not_mem_nil, or_false] at hline
    rcases hline with rfl | hline | rfl
    · exact hbegin
    · exact hbody.foldable line hline
    · exact hend
  have hmark : markOf "BEGIN:VCALENDAR".toList = .other ∧
      markOf "END:VCALENDAR".toList = .other := by decide
  have hbegins : beginsCalendar "BEGIN:VCALENDAR".toList = true := by decide
  have hperiods : Calendar.periodsFrom none
      (("BEGIN:VCALENDAR".toList :: (body ++ ["END:VCALENDAR".toList])).map markOf) = ps := by
    rw [List.map_cons, List.map_append, List.map_singleton, hmark.1, hmark.2,
      periodsFrom_cons (by simp) (by simp), Option.map_none, hbody.periodsFrom hps]
    exact List.append_nil ps
  simp only [readDocument, hlogical, hperiods, List.any_cons, hbegins, Bool.true_or, if_true]

/-- A calendar with one stay. Lines are folded in a word, between quotes, in a time, before the first
character and twice in a row. -/
def foldedStay : String :=
  "BEGIN:VCALENDAR\r\nBEGIN:VE\n VENT\nNOTE:late: \"call\r\n" ++
    "DTEND;X=\"a:\r\n\tb;c\";Y=1:20240301T10\n 0000Z\n" ++
    "\n DTSTART:2024022\r\n \n\t7\nEND:VEVENT\nEND:VCALENDAR\r\n"

theorem written_foldedStay : Written
    ["BEGIN:VCALENDAR".toList, "BEGIN:VEVENT".toList, "NOTE:late: \"call".toList,
      "DTEND;X=\"a:b;c\";Y=1:20240301T100000Z".toList, "DTSTART:20240227".toList,
      "END:VEVENT".toList, "END:VCALENDAR".toList] foldedStay.toList := by
  have hcr : IsBreak ['\r', '\n'] := .inr rfl
  have hlf : IsBreak ['\n'] := .inl rfl
  have hbegin := (folded_self "BEGIN:VE".toList).append (.fold ' ' hlf rfl (folded_self "VENT".toList))
  have hend := (folded_self "DTEND;X=\"a:".toList).append (.fold '\t' hcr rfl
    ((folded_self "b;c\";Y=1:20240301T10".toList).append
      (.fold ' ' hlf rfl (folded_self "0000Z".toList))))
  have hstart := Folded.fold ' ' hlf rfl ((folded_self "DTSTART:2024022".toList).append
    (.fold ' ' hcr rfl (.fold '\t' hlf rfl (folded_self "7".toList))))
  have h := Written.line (folded_self "BEGIN:VCALENDAR".toList) hcr <| .line hbegin hlf <|
    .line (folded_self "NOTE:late: \"call".toList) hcr <| .line hend hlf <| .line hstart hlf <|
    .line (folded_self "END:VEVENT".toList) hlf <|
    .line (folded_self "END:VCALENDAR".toList) hcr .nil
  exact cast (congr (congrArg Written (by decide +kernel)) (by decide +kernel)) h

theorem aside_note : Aside "NOTE:late: \"call".toList where
  foldable := by decide
  name := by
    have hnote : Property.ofLine? "NOTE:late: \"call".toList =
        some ⟨"NOTE".toList, "late: \"call".toList⟩ := by decide
    have hnames : ∀ name ∈ ["BEGIN", "END", "DTSTART", "DTEND", "STATUS"],
        Text.upperAscii name.toList = name.toList ∧ "NOTE".toList ≠ name.toList := by decide
    intro name hname v hsays
    obtain ⟨hupper, hne⟩ := hnames name hname
    rw [← ofLine?_iff hupper, hnote] at hsays
    exact hne (Property.mk.inj (Option.some.inj hsays)).1

def leapStay : Period :=
  ⟨⟨Civil.number ⟨2024, 2, 27⟩, by decide⟩, ⟨Civil.number ⟨2024, 3, 1⟩, by decide⟩⟩

theorem writesEvent_leapStay : WritesEvent leapStay
    ["BEGIN:VEVENT".toList, "NOTE:late: \"call".toList,
      "DTEND;X=\"a:b;c\";Y=1:20240301T100000Z".toList, "DTSTART:20240227".toList,
      "END:VEVENT".toList] := by
  have hparameters : IsParameters ";X=\"a:b;c\";Y=1".toList :=
    .inr ⟨"X=\"a:b;c\";Y=1".toList, rfl,
      .char (by decide) (by decide) <| .char (by decide) (by decide) <|
        .quoted (q := "a:b;c".toList) (by decide) <| .char (by decide) (by decide) <|
        .char (by decide) (by decide) <| .char (by decide) (by decide) <|
        .char (by decide) (by decide) .nil, by decide⟩
  have htime : IsTime "T100000Z".toList :=
    .inr ⟨"100000".toList, ['Z'], rfl, rfl, List.all_eq_true.mp (by decide), .inr rfl⟩
  have hasides : ∀ line ∈ ["NOTE:late: \"call".toList] ++ [] ++ [], Aside line := by
    simpa using aside_note
  exact ⟨["NOTE:late: \"call".toList], _, [], _, [], rfl, hasides,
    .inr ⟨⟨_, _, hparameters, htime, by decide +kernel⟩,
      ⟨[], [], .inl rfl, .inl rfl, by decide +kernel⟩⟩⟩

/-- The stay is read from its folded calendar. -/
theorem foldedStay_read : readDocument foldedStay = .ok [leapStay] := by
  have hlines : WritesCalendar [leapStay] _ := ⟨_, .event writesEvent_leapStay .nil, rfl⟩
  exact readDocument_written (by decide +kernel) hlines written_foldedStay

end Lodging.Calendar
