import Lodging.Calendar.Document
import Lodging.Proofs.Text.Ascii

/-! # What the lines of a calendar document say

The readings of lines without the way in which they are read: where the physical lines of a text end,
which of them a logical line is made of, where the separator of a property line is, and which lines say
what about events. -/

namespace Lodging.Calendar

/-! ## Line ends -/

/-- The line is the text without the carriage returns at its end, or without the last `n` if there are
more of them. -/
def Stripped (n : Nat) (text line : List Char) : Prop :=
  ∃ k ≤ n, text = line ++ List.replicate k '\r' ∧ (k < n → line.getLast? ≠ some '\r')

/-- The lines of a text. Each reaches up to a line feed, which takes two carriage returns with it. What
follows the last line feed is a line unless it is empty, and loses one carriage return. -/
inductive Physical : List Char → List (List Char) → Prop
  | nil : Physical [] []
  | last {text line : List Char} : '\n' ∉ text → text ≠ [] → Stripped 1 text line →
      Physical text [line]
  | line {text line rest : List Char} {lines : List (List Char)} : '\n' ∉ text →
      Stripped 2 text line → Physical rest lines → Physical (text ++ '\n' :: rest) (line :: lines)

theorem stripped_zero (text : List Char) : Stripped 0 text text :=
  ⟨0, Nat.le_refl 0, (List.append_nil text).symm, fun h => absurd h (Nat.lt_irrefl 0)⟩

theorem Stripped.dropReturn {n : Nat} {text line : List Char} (h : Stripped n text line) :
    Stripped (n + 1) text (dropReturn line) := by
  obtain ⟨k, hk, htext, hlast⟩ := h
  unfold Calendar.dropReturn
  split
  · next rest hrest =>
    have hline : line = rest.reverse ++ ['\r'] := by
      rw [← List.reverse_reverse line, hrest, List.reverse_cons]
    obtain rfl : k = n := (Nat.eq_or_lt_of_le hk).resolve_right fun hlt =>
      hlast hlt (by simp [hline])
    refine ⟨k + 1, Nat.le_refl _, ?_, fun hlt => absurd hlt (Nat.lt_irrefl _)⟩
    rw [htext, hline, List.append_assoc, List.replicate_succ]
    rfl
  · next hno =>
    refine ⟨k, Nat.le_succ_of_le hk, htext, fun _ hr => ?_⟩
    rw [← List.head?_reverse] at hr
    obtain ⟨rest, hrest⟩ := List.head?_eq_some_iff.mp hr
    exact hno rest hrest

theorem Stripped.unique {n : Nat} {text line line' : List Char} (h : Stripped n text line)
    (h' : Stripped n text line') : line = line' := by
  -- who drops fewer carriage returns than the other leaves one at the end
  have hless : ∀ {k k' : Nat} {line line' : List Char}, k < k' →
      line ++ List.replicate k '\r' = line' ++ List.replicate k' '\r' →
      line.getLast? = some '\r' := by
    intro k k' line line' hlt heq
    obtain ⟨m, rfl⟩ := Nat.exists_eq_add_of_lt hlt
    rw [show k + m + 1 = (m + 1) + k by omega, ← List.replicate_append_replicate,
      ← List.append_assoc] at heq
    rw [List.append_cancel_right heq, List.replicate_succ', ← List.append_assoc]
    exact List.getLast?_concat
  obtain ⟨k, hk, htext, hlast⟩ := h
  obtain ⟨k', hk', htext', hlast'⟩ := h'
  have heq := htext.symm.trans htext'
  rcases Nat.lt_trichotomy k k' with hlt | rfl | hlt
  · exact absurd (hless hlt heq) (hlast (by omega))
  · exact List.append_cancel_right heq
  · exact absurd (hless hlt heq.symm) (hlast' (by omega))

theorem physicalFrom_append {text : List Char} (h : '\n' ∉ text) (current rest : List Char) :
    physicalFrom current (text ++ rest) = physicalFrom (text.reverse ++ current) rest := by
  induction text generalizing current with
  | nil => rfl
  | cons c text ih =>
    obtain ⟨hc, htext⟩ := not_or.mp (mt List.mem_cons.mpr h)
    rw [List.cons_append, physicalFrom, if_neg (Ne.symm hc), ih htext]
    simp

theorem physical_physicalFrom {current : List Char} (hcurrent : '\n' ∉ current) (s : List Char) :
    Physical (current.reverse ++ s) (physicalFrom current s) := by
  have hreverse : ∀ {current : List Char}, '\n' ∉ current → '\n' ∉ current.reverse :=
    fun h => mt List.mem_reverse.mp h
  induction s generalizing current with
  | nil =>
    rw [List.append_nil]
    cases current with
    | nil => exact .nil
    | cons c current => exact .last (hreverse hcurrent) (by simp) (stripped_zero _).dropReturn
  | cons c rest ih =>
    rw [physicalFrom]
    split
    · next hc =>
      rw [hc]
      exact .line (hreverse hcurrent) (stripped_zero _).dropReturn.dropReturn
        (ih List.not_mem_nil)
    · next hc =>
      rw [List.append_cons, ← List.reverse_cons]
      exact ih fun h => (List.mem_cons.mp h).elim (fun he => hc he.symm) hcurrent

theorem physical_iff {s : List Char} {lines : List (List Char)} :
    Physical s lines ↔ physicalLines s = lines := by
  constructor
  · intro h
    induction h with
    | nil => rfl
    | @last text line hbreak hne hline =>
      have hread := physicalFrom_append hbreak [] []
      rw [List.append_nil, List.append_nil] at hread
      rw [physicalLines, hread, physicalFrom, if_neg (by simpa using hne), List.reverse_reverse,
        (stripped_zero text).dropReturn.unique hline]
    | @line text line rest lines hbreak hline _ ih =>
      rw [physicalLines, physicalFrom_append hbreak, List.append_nil, physicalFrom, if_pos rfl,
        List.reverse_reverse, (stripped_zero text).dropReturn.dropReturn.unique hline, ← ih]
      rfl
  · rintro rfl
    exact physical_physicalFrom List.not_mem_nil s

/-! ## Continuations -/

/-- The logical lines that physical lines make up: a line that begins with a blank goes on where the
last one ended, unless it is the first of all. -/
inductive Unfolds : List (List Char) → List (List Char) → Prop
  | nil : Unfolds [] []
  | line {ps ls : List (List Char)} {line : List Char} : Unfolds ps ls →
      (ps = [] ∨ ∀ c ∈ line.head?, isFold c = false) → Unfolds (ps ++ [line]) (ls ++ [line])
  | fold {ps ls : List (List Char)} {line rest : List Char} {c : Char} :
      Unfolds ps (ls ++ [line]) → isFold c = true →
      Unfolds (ps ++ [c :: rest]) (ls ++ [line ++ rest])

theorem unfolds_joinFrom {ps ls lines : List (List Char)} {current : List Char}
    (h : Unfolds ps (ls ++ [current])) : Unfolds (ps ++ lines) (ls ++ joinFrom current lines) := by
  induction lines generalizing ps ls current with
  | nil =>
    rw [List.append_nil]
    exact h
  | cons line lines ih =>
    rw [List.append_cons]
    have hnew : (∀ c ∈ line.head?, isFold c = false) →
        Unfolds (ps ++ [line] ++ lines) (ls ++ current :: joinFrom line lines) := fun hline => by
      rw [List.append_cons ls]
      exact ih (.line h (.inr hline))
    cases line with
    | nil => exact hnew (by simp)
    | cons c rest =>
      rw [joinFrom]
      split
      · next hc => exact ih (.fold h hc)
      · next hc => exact hnew (by simpa using hc)

theorem unfolds_logicalLines (s : List Char) : Unfolds (physicalLines s) (logicalLines s) := by
  unfold logicalLines
  split
  · next h =>
    rw [h]
    exact .nil
  · next line lines h =>
    have hfirst : Unfolds [line] ([] ++ [line]) := .line .nil (.inl rfl)
    rw [h]
    exact unfolds_joinFrom hfirst

/-! ## The separator -/

/-- The colon after the head is the first of the line that stands outside double quotes. -/
structure Separated (quoted : Bool) (line head value : List Char) : Prop where
  eq : line = head ++ ':' :: value
  outside : (quoted.toNat + head.count '"') % 2 = 0
  first : ∀ before after, head = before ++ ':' :: after →
    (quoted.toNat + before.count '"') % 2 = 1

theorem separated_cons {quoted : Bool} {c : Char} {rest head value : List Char}
    (hc : ¬ (c = ':' ∧ (!quoted) = true)) : Separated quoted (c :: rest) head value ↔
      ∃ tail, head = c :: tail ∧ Separated (if c = '"' then !quoted else quoted) rest tail value := by
  have hquote : ∀ n, ((if c = '"' then !quoted else quoted).toNat + n) % 2 =
      (quoted.toNat + (n + if c = '"' then 1 else 0)) % 2 := fun n => by
    cases quoted <;> split <;> simp <;> omega
  constructor
  · rintro ⟨heq, hout, hfirst⟩
    cases head with
    | nil =>
      obtain ⟨rfl, -⟩ := List.cons.inj heq
      cases quoted <;> simp_all
    | cons d tail =>
      obtain ⟨rfl, hrest⟩ := List.cons.inj heq
      rw [List.count_cons] at hout
      refine ⟨tail, rfl, hrest, ?_, fun before after htail => ?_⟩
      · rw [hquote]
        simpa using hout
      · have hodd := hfirst (c :: before) after (by rw [htail]; rfl)
        rw [List.count_cons] at hodd
        rw [hquote]
        simpa using hodd
  · rintro ⟨tail, rfl, heq, hout, hfirst⟩
    refine ⟨by rw [heq]; rfl, ?_, fun before after hhead => ?_⟩
    · rw [hquote] at hout
      rw [List.count_cons]
      simpa using hout
    · cases before with
      | nil =>
        obtain ⟨rfl, -⟩ := List.cons.inj hhead
        cases quoted <;> simp_all
      | cons d before =>
        obtain ⟨rfl, htail⟩ := List.cons.inj hhead
        have hodd := hfirst before after htail
        rw [hquote] at hodd
        rw [List.count_cons]
        simpa using hodd

theorem splitColon_iff {quoted : Bool} {line head value : List Char} :
    splitColon quoted line = some (head, value) ↔ Separated quoted line head value := by
  induction line generalizing quoted head value with
  | nil =>
    constructor
    · intro h
      cases h
    · intro h
      have hlength := congrArg List.length h.eq
      simp at hlength
  | cons c rest ih =>
    rw [splitColon]
    split
    · next hc =>
      obtain ⟨rfl, hq⟩ := hc
      obtain rfl : quoted = false := by simpa using hq
      constructor
      · intro h
        cases h
        exact ⟨rfl, rfl, fun before after h => by simp at h⟩
      · intro h
        cases head with
        | nil => rw [(List.cons.inj h.eq).2]
        | cons d tail =>
          obtain ⟨rfl, -⟩ := List.cons.inj h.eq
          exact absurd (h.first [] tail rfl) (by decide)
    · next hc =>
      rw [separated_cons hc]
      simp only [Option.map_eq_some_iff, Prod.exists, Prod.mk.injEq, ih]
      constructor
      · rintro ⟨tail, v, h, rfl, rfl⟩
        exact ⟨tail, rfl, h⟩
      · rintro ⟨tail, rfl, h⟩
        exact ⟨tail, value, h, rfl, rfl⟩

/-! ## Properties -/

/-- The line is a property with this name, up to letter case, and this value. -/
def Says (line : List Char) (name : String) (value : List Char) : Prop :=
  ∃ head rest, Separated false line head rest ∧
    Text.sameAscii (Text.trim (head.takeWhile (· != ';'))) name.toList = true ∧
    value = Text.trim rest

theorem nameOf_eq (head : List Char) :
    (match Text.cut? ';' head with
      | some (name, _) => name
      | none => head) = head.takeWhile (· != ';') := by
  induction head with
  | nil => rfl
  | cons c rest ih =>
    by_cases hc : c = ';'
    · simp [Text.cut?, hc]
    · rw [List.takeWhile_cons_of_pos (by simpa using hc), ← ih, Text.cut?, if_neg hc]
      cases Text.cut? ';' rest <;> rfl

theorem ofLine?_eq (line : List Char) : Property.ofLine? line =
    (splitColon false line).map fun parts =>
      ⟨Text.upperAscii (Text.trim (parts.1.takeWhile (· != ';'))), Text.trim parts.2⟩ := by
  unfold Property.ofLine?
  refine congrArg (fun f => (splitColon false line).map f) (funext fun parts => ?_)
  exact congrArg (fun name => Property.mk (Text.upperAscii (Text.trim name)) (Text.trim parts.2))
    (nameOf_eq parts.1)

/-- A line has a property with a name in capital letters exactly if it says so. -/
theorem ofLine?_iff {line : List Char} {name : String} {value : List Char}
    (hname : Text.upperAscii name.toList = name.toList) :
    Property.ofLine? line = some ⟨name.toList, value⟩ ↔ Says line name value := by
  simp only [ofLine?_eq, Option.map_eq_some_iff, Prod.exists, splitColon_iff, Property.mk.injEq]
  constructor
  · rintro ⟨head, rest, h, hn, rfl⟩
    exact ⟨head, rest, h, Text.upperAscii_eq_iff.mp (hn.trans hname.symm), rfl⟩
  · rintro ⟨head, rest, h, hn, rfl⟩
    exact ⟨head, rest, h, (Text.upperAscii_eq_iff.mpr hn).trans hname, rfl⟩

/-! ## What counts for events -/

def Opens (line : List Char) : Prop :=
  ∃ v, Says line "BEGIN" v ∧ Text.sameAscii v "VEVENT".toList = true

def Closes (line : List Char) : Prop :=
  ∃ v, Says line "END" v ∧ Text.sameAscii v "VEVENT".toList = true

def Cancels (line : List Char) : Prop :=
  ∃ v, Says line "STATUS" v ∧ Text.sameAscii v "CANCELLED".toList = true

def Mark.Means (line : List Char) : Mark → Prop
  | .opens => Opens line
  | .closes => Closes line
  | .starts v => Says line "DTSTART" v
  | .ends v => Says line "DTEND" v
  | .cancels => Cancels line
  | .other => ¬ Opens line ∧ ¬ Closes line ∧ (∀ v, ¬ Says line "DTSTART" v) ∧
      (∀ v, ¬ Says line "DTEND" v) ∧ ¬ Cancels line

theorem markOf_of_property {line : List Char} {name : String} {value : List Char}
    (hname : Text.upperAscii name.toList = name.toList) (h : Says line name value) :
    markOf line = Property.mark ⟨name.toList, value⟩ := by
  rw [markOf, (ofLine?_iff hname).mpr h]

/-- The names that count are different, so each line has the mark of its own name. -/
theorem markOf_of_means {line : List Char} {m : Mark} (hm : m ≠ .other) (h : m.Means line) :
    markOf line = m := by
  cases m with
  | opens =>
    obtain ⟨v, hv, hsame⟩ := h
    exact (markOf_of_property (by decide) hv).trans (if_pos ⟨rfl, hsame⟩)
  | closes =>
    obtain ⟨v, hv, hsame⟩ := h
    have hbegin : "END".toList ≠ "BEGIN".toList := by decide
    refine (markOf_of_property (by decide) hv).trans ?_
    exact (if_neg fun h => hbegin h.1).trans (if_pos ⟨rfl, hsame⟩)
  | starts v =>
    have hbegin : "DTSTART".toList ≠ "BEGIN".toList := by decide
    have hend : "DTSTART".toList ≠ "END".toList := by decide
    refine (markOf_of_property (by decide) h).trans ((if_neg fun h => hbegin h.1).trans ?_)
    exact (if_neg fun h => hend h.1).trans (if_pos rfl)
  | ends v =>
    have hbegin : "DTEND".toList ≠ "BEGIN".toList := by decide
    have hend : "DTEND".toList ≠ "END".toList := by decide
    have hstart : "DTEND".toList ≠ "DTSTART".toList := by decide
    refine (markOf_of_property (by decide) h).trans ((if_neg fun h => hbegin h.1).trans ?_)
    exact (if_neg fun h => hend h.1).trans ((if_neg hstart).trans (if_pos rfl))
  | cancels =>
    obtain ⟨v, hv, hsame⟩ := h
    have hbegin : "STATUS".toList ≠ "BEGIN".toList := by decide
    have hend : "STATUS".toList ≠ "END".toList := by decide
    have hstart : "STATUS".toList ≠ "DTSTART".toList := by decide
    have hstop : "STATUS".toList ≠ "DTEND".toList := by decide
    refine (markOf_of_property (by decide) hv).trans ((if_neg fun h => hbegin h.1).trans ?_)
    refine (if_neg fun h => hend h.1).trans ((if_neg hstart).trans ?_)
    exact (if_neg hstop).trans (if_pos ⟨rfl, hsame⟩)
  | other => exact absurd rfl hm

theorem means_of_mark {line : List Char} {p : Property} (hp : Property.ofLine? line = some p)
    {m : Mark} (hm : m ≠ .other) (h : p.mark = m) : m.Means line := by
  obtain ⟨name, value⟩ := p
  have hvalue : ∀ {n : String}, Text.upperAscii n.toList = n.toList → name = n.toList →
      Says line n value := fun hupper hname => (ofLine?_iff hupper).mp (hname ▸ hp)
  unfold Property.mark at h
  split at h
  · next hname => exact h ▸ ⟨value, hvalue (by decide) hname.1, hname.2⟩
  split at h
  · next hname => exact h ▸ ⟨value, hvalue (by decide) hname.1, hname.2⟩
  split at h
  · next hname => exact h ▸ hvalue (by decide) hname
  split at h
  · next hname => exact h ▸ hvalue (by decide) hname
  split at h
  · next hname => exact h ▸ ⟨value, hvalue (by decide) hname.1, hname.2⟩
  · exact absurd h.symm hm

theorem means_markOf {line : List Char} {m : Mark} (hm : m ≠ .other) (h : markOf line = m) :
    m.Means line := by
  unfold markOf at h
  split at h
  · next p hp => exact means_of_mark hp hm h
  · exact absurd h.symm hm

/-- The mark of a line tells what the line says. -/
theorem markOf_iff {line : List Char} {m : Mark} : markOf line = m ↔ m.Means line := by
  by_cases hm : m = .other
  · subst hm
    constructor
    · intro h
      have hno : ∀ m : Mark, m ≠ .other → ¬ m.Means line := fun m hm hmeans =>
        hm ((markOf_of_means hm hmeans).symm.trans h)
      exact ⟨hno .opens nofun, hno .closes nofun, fun v => hno (.starts v) nofun,
        fun v => hno (.ends v) nofun, hno .cancels nofun⟩
    · rintro ⟨hopens, hcloses, hstarts, hends, hcancels⟩
      have hmeans : ∀ m : Mark, m ≠ .other → markOf line = m → m.Means line :=
        fun m hm h => means_markOf hm h
      cases h : markOf line with
      | opens => exact absurd (hmeans .opens nofun h) hopens
      | closes => exact absurd (hmeans .closes nofun h) hcloses
      | starts v => exact absurd (hmeans (.starts v) nofun h) (hstarts v)
      | ends v => exact absurd (hmeans (.ends v) nofun h) (hends v)
      | cancels => exact absurd (hmeans .cancels nofun h) hcancels
      | other => rfl
  · exact ⟨means_markOf hm, markOf_of_means hm⟩

theorem markOf_eq_opens {line : List Char} : markOf line = .opens ↔ Opens line := markOf_iff

theorem markOf_eq_closes {line : List Char} : markOf line = .closes ↔ Closes line := markOf_iff

theorem markOf_eq_starts {line v : List Char} :
    markOf line = .starts v ↔ Says line "DTSTART" v := markOf_iff

theorem markOf_eq_ends {line v : List Char} : markOf line = .ends v ↔ Says line "DTEND" v :=
  markOf_iff

theorem markOf_eq_cancels {line : List Char} : markOf line = .cancels ↔ Cancels line := markOf_iff

end Lodging.Calendar
