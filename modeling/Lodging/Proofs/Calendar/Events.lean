import Lodging.Proofs.Calendar.Document
import Lodging.Proofs.Calendar.Line
import Lodging.Proofs.Day.Stamp
import Mathlib.Data.List.Forall2
import Mathlib.Data.List.Induction
import Mathlib.Data.List.Sort

/-! # The events of a document

An event is what stands between a line that ends an event and the nearest line before it that begins
one, unless another one ends in between. The periods of a document are those of its usable events in
their order. They are read in one pass, which has seen, wherever it is, the lines of the event under way
up to there (`Pending`). -/

namespace Lodging.Calendar

/-! ## A single event -/

/-- The day under the name that counts is the one in the last line with the name. -/
def LastDate (name : String) (body : List (List Char)) (d : Day) : Prop :=
  ∃ before line after v, body = before ++ line :: after ∧ Says line name v ∧
    stampDay? v = some d ∧ ∀ l ∈ after, ∀ u, ¬ Says l name u

structure Usable (body : List (List Char)) : Prop where
  running : ∀ line ∈ body, ¬ Cancels line
  readable : ∀ line ∈ body, ∀ v, Says line "DTSTART" v ∨ Says line "DTEND" v →
    ∃ d, stampDay? v = some d
  dated : ∃ line ∈ body, ∃ v, Says line "DTSTART" v
  forward : ∀ s e, LastDate "DTSTART" body s → LastDate "DTEND" body e → ¬ e < s

/-- The event with these lines takes up the period: up to its last end, or a single day if it has no
end or ends on the day it starts. -/
def TakesUp (body : List (List Char)) (p : Period) : Prop :=
  LastDate "DTSTART" body p.start ∧
    (p.start < p.stop ∧ LastDate "DTEND" body p.stop ∨
      ((∀ line ∈ body, ∀ v, ¬ Says line "DTEND" v) ∨ LastDate "DTEND" body p.start) ∧
        p.stop.number = p.start.number + 1)

def eventOf (body : List (List Char)) : Event := (body.map markOf).foldl Event.add .empty

theorem eventOf_concat (body : List (List Char)) (line : List Char) :
    eventOf (body ++ [line]) = (eventOf body).add (markOf line) := by
  simp [eventOf]

theorem Says.unique {line : List Char} {name : String} {u v : List Char}
    (hu : Says line name u) (hv : Says line name v) : u = v := by
  obtain ⟨head, rest, hsep, -, rfl⟩ := hu
  obtain ⟨head', rest', hsep', -, rfl⟩ := hv
  have hsame := (splitColon_iff.mpr hsep).symm.trans (splitColon_iff.mpr hsep')
  cases hsame
  rfl

theorem LastDate.unique {name : String} {body : List (List Char)} {c d : Day}
    (hc : LastDate name body c) (hd : LastDate name body d) : c = d := by
  obtain ⟨before, line, after, v, hbody, hv, hstamp, hafter⟩ := hc
  obtain ⟨before', line', after', v', hbody', hv', hstamp', hafter'⟩ := hd
  rcases List.append_eq_append_iff.mp (hbody.symm.trans hbody') with
    ⟨between, hbefore, hrest⟩ | ⟨between, hbefore, hrest⟩
  · cases between with
    | nil =>
      obtain ⟨rfl, -⟩ := List.cons.inj hrest
      obtain rfl := hv.unique hv'
      exact Option.some.inj (hstamp.symm.trans hstamp')
    | cons l between =>
      obtain ⟨rfl, rfl⟩ := List.cons.inj hrest
      exact absurd hv' (hafter _ (by simp) _)
  · cases between with
    | nil =>
      obtain ⟨rfl, -⟩ := List.cons.inj hrest
      obtain rfl := hv.unique hv'
      exact Option.some.inj (hstamp.symm.trans hstamp')
    | cons l between =>
      obtain ⟨rfl, rfl⟩ := List.cons.inj hrest
      exact absurd hv (hafter' _ (by simp) _)

/-- What is known of the date under the name. -/
def DateIs (name : String) (body : List (List Char)) : Option Day → Prop
  | some d => LastDate name body d
  | none => ∀ line ∈ body, ∀ v, ¬ Says line name v

/-- If all dates under a name can be read the last of them is kept. -/
theorem dateIs_eventOf {name : String} (date : Event → Option Day) (hempty : date .empty = none)
    (hvalue : ∀ (e : Event) line v d, Says line name v → stampDay? v = some d →
      date (e.add (markOf line)) = some d)
    (hskip : ∀ (e : Event) line, (∀ v, ¬ Says line name v) →
      date (e.add (markOf line)) = date e)
    {body : List (List Char)}
    (hread : ∀ line ∈ body, ∀ v, Says line name v → ∃ d, stampDay? v = some d) :
    DateIs name body (date (eventOf body)) := by
  induction body using List.reverseRecOn with
  | nil => simp [eventOf, hempty, DateIs]
  | append_singleton body line ih =>
    have hbefore := ih fun l hl => hread l (List.mem_append_left _ hl)
    rw [eventOf_concat]
    by_cases hline : ∃ v, Says line name v
    · obtain ⟨v, hv⟩ := hline
      obtain ⟨d, hd⟩ := hread line (by simp) v hv
      rw [hvalue _ _ v d hv hd]
      exact ⟨body, line, [], v, rfl, hv, hd, by simp⟩
    · have hno : ∀ v, ¬ Says line name v := fun v hv => hline ⟨v, hv⟩
      rw [hskip _ _ hno]
      cases hdate : date (eventOf body) with
      | none =>
        rw [hdate] at hbefore
        intro l hl
        rcases List.mem_append.mp hl with hl | hl
        · exact hbefore l hl
        · rw [List.mem_singleton.mp hl]
          exact hno
      | some d =>
        rw [hdate] at hbefore
        obtain ⟨before, l, after, v, rfl, hv, hd, hafter⟩ := hbefore
        refine ⟨before, l, after ++ [line], v, by simp, hv, hd, fun k hk => ?_⟩
        rcases List.mem_append.mp hk with hk | hk
        · exact hafter k hk
        · rw [List.mem_singleton.mp hk]
          exact hno

theorem dateIs_start {body : List (List Char)}
    (hread : ∀ line ∈ body, ∀ v, Says line "DTSTART" v → ∃ d, stampDay? v = some d) :
    DateIs "DTSTART" body (eventOf body).start := by
  refine dateIs_eventOf Event.start rfl (fun e line v d hv hd => ?_)
    (fun e line hno => ?_) hread
  · rw [markOf_eq_starts.mpr hv]
    simp [Event.add, hd]
  · cases hmark : markOf line with
    | starts v => exact absurd (markOf_eq_starts.mp hmark) (hno v)
    | ends v => simp only [Event.add]; split <;> rfl
    | _ => rfl

theorem dateIs_stop {body : List (List Char)}
    (hread : ∀ line ∈ body, ∀ v, Says line "DTEND" v → ∃ d, stampDay? v = some d) :
    DateIs "DTEND" body (eventOf body).stop := by
  refine dateIs_eventOf Event.stop rfl (fun e line v d hv hd => ?_)
    (fun e line hno => ?_) hread
  · rw [markOf_eq_ends.mpr hv]
    simp [Event.add, hd]
  · cases hmark : markOf line with
    | starts v => simp only [Event.add]; split <;> rfl
    | ends v => exact absurd (markOf_eq_ends.mp hmark) (hno v)
    | _ => rfl

theorem cancelled_eventOf {body : List (List Char)} :
    (eventOf body).cancelled = false ↔ ∀ line ∈ body, ¬ Cancels line := by
  induction body using List.reverseRecOn with
  | nil => simp [eventOf, Event.empty]
  | append_singleton body line ih =>
    rw [eventOf_concat, List.forall_mem_append, List.forall_mem_singleton, ← ih]
    rw [← markOf_eq_cancels]
    cases markOf line with
    | starts v => simp only [Event.add]; split <;> simp
    | ends v => simp only [Event.add]; split <;> simp
    | cancels => simp [Event.add]
    | _ => simp [Event.add]

theorem malformed_eventOf {body : List (List Char)} :
    (eventOf body).malformed = false ↔ ∀ line ∈ body, ∀ v,
      Says line "DTSTART" v ∨ Says line "DTEND" v → ∃ d, stampDay? v = some d := by
  induction body using List.reverseRecOn with
  | nil => simp [eventOf, Event.empty]
  | append_singleton body line ih =>
    rw [eventOf_concat, List.forall_mem_append, List.forall_mem_singleton, ← ih]
    simp only [← markOf_eq_starts, ← markOf_eq_ends]
    cases markOf line with
    | starts v => cases hv : stampDay? v <;> simp [Event.add, hv]
    | ends v => cases hv : stampDay? v <;> simp [Event.add, hv]
    | _ => simp [Event.add]

theorem LastDate.mem {name : String} {body : List (List Char)} {d : Day}
    (h : LastDate name body d) : ∃ line ∈ body, ∃ v, Says line name v ∧ stampDay? v = some d := by
  obtain ⟨before, line, after, v, rfl, hv, hd, -⟩ := h
  exact ⟨line, by simp, v, hv, hd⟩

theorem usable_of_start {body : List (List Char)} {s : Day}
    (hcancelled : (eventOf body).cancelled = false) (hmalformed : (eventOf body).malformed = false)
    (hs : LastDate "DTSTART" body s) (hforward : ∀ e, LastDate "DTEND" body e → ¬ e < s) :
    Usable body where
  running := cancelled_eventOf.mp hcancelled
  readable := malformed_eventOf.mp hmalformed
  dated := by
    obtain ⟨line, hline, v, hv, -⟩ := hs.mem
    exact ⟨line, hline, v, hv⟩
  forward := fun _ e hs' he => hs.unique hs' ▸ hforward e he

theorem period?_eventOf {body : List (List Char)} {p : Period}
    (h : (eventOf body).period? = some p) : Usable body ∧ TakesUp body p := by
  unfold Event.period? at h
  split at h
  · cases h
  next hgood =>
  obtain ⟨hcancelled, hmalformed⟩ : (eventOf body).cancelled = false ∧
      (eventOf body).malformed = false := by simpa using hgood
  have hread := malformed_eventOf.mp hmalformed
  have hstart := dateIs_start fun l hl v hv => hread l hl v (.inl hv)
  have hstop := dateIs_stop fun l hl v hv => hread l hl v (.inr hv)
  split at h
  · cases h
  · next s hs ht =>
    rw [hs] at hstart
    rw [ht] at hstop
    obtain ⟨rfl, hnext⟩ := dayOnly?_eq_some h
    refine ⟨usable_of_start hcancelled hmalformed hstart fun e he => ?_, hstart, .inr ⟨.inl hstop, hnext⟩⟩
    obtain ⟨line, hline, v, hv, -⟩ := he.mem
    exact absurd hv (hstop line hline v)
  · next s t hs ht =>
    rw [hs] at hstart
    rw [ht] at hstop
    split at h
    · next hlt =>
      cases h
      refine ⟨usable_of_start hcancelled hmalformed hstart fun e he hes => ?_, hstart, .inl ⟨hlt, hstop⟩⟩
      rw [he.unique hstop] at hes
      exact absurd (Int.lt_trans hlt hes) (Int.lt_irrefl _)
    · split at h
      · next hts =>
        subst hts
        obtain ⟨rfl, hnext⟩ := dayOnly?_eq_some h
        refine ⟨usable_of_start hcancelled hmalformed hstart fun e he hes => ?_, hstart, .inr ⟨.inr hstop, hnext⟩⟩
        rw [he.unique hstop] at hes
        exact absurd hes (Int.lt_irrefl _)
      · cases h

theorem Usable.exists_period? {body : List (List Char)} (h : Usable body) :
    ∃ p, (eventOf body).period? = some p := by
  have hstart := dateIs_start fun l hl v hv => h.readable l hl v (.inl hv)
  have hstop := dateIs_stop fun l hl v hv => h.readable l hl v (.inr hv)
  rw [Event.period?, cancelled_eventOf.mpr h.running, malformed_eventOf.mpr h.readable]
  cases hs : (eventOf body).start with
  | none =>
    rw [hs] at hstart
    obtain ⟨line, hline, v, hv⟩ := h.dated
    exact absurd hv (hstart line hline v)
  | some s =>
    rw [hs] at hstart
    obtain ⟨-, -, v, -, hstamp⟩ := hstart.mem
    obtain ⟨e, he⟩ := exists_next?_of_stampDay? hstamp
    have hday : dayOnly? s = some ⟨s, e⟩ := by rw [dayOnly?, he]; rfl
    cases ht : (eventOf body).stop with
    | none => exact ⟨_, hday⟩
    | some t =>
      rw [ht] at hstop
      have hle : ¬ t.number < s.number := h.forward s t hstart hstop
      by_cases hlt : s < t
      · exact ⟨⟨s, t⟩, by simp [hlt]⟩
      · have hge : ¬ s.number < t.number := hlt
        obtain rfl : t = s := Day.ext_number (by omega)
        exact ⟨⟨t, e⟩, by simp [hlt, hday]⟩

/-! ## The events among the lines -/

def OpensAt (lines : List (List Char)) (i : Nat) : Prop := ∃ line ∈ lines[i]?, Opens line

def ClosesAt (lines : List (List Char)) (j : Nat) : Prop := ∃ line ∈ lines[j]?, Closes line

/-- The lines with these numbers begin and end an event, and none in between begins or ends one. -/
structure IsEvent (lines : List (List Char)) (i j : Nat) : Prop where
  lt : i < j
  opens : OpensAt lines i
  closes : ClosesAt lines j
  alone : ∀ k, i < k → k < j → ¬ OpensAt lines k ∧ ¬ ClosesAt lines k

def linesBetween (lines : List (List Char)) (i j : Nat) : List (List Char) :=
  (lines.take j).drop (i + 1)

/-- The pairs are those with the property, in the order in which they end. -/
structure Lists (P : Nat → Nat → Prop) (evs : List (Nat × Nat)) : Prop where
  ordered : evs.Pairwise fun a b => a.2 < b.2
  mem_iff : ∀ i j, (i, j) ∈ evs ↔ P i j

/-- What is known of the event under way when `n` lines are read: the last of them that begins or ends
one began it, or none is under way. -/
def Pending (lines : List (List Char)) (n : Nat) : Option Event → Prop
  | some e => ∃ i < n, OpensAt lines i ∧ (∀ k, i < k → k < n →
      ¬ OpensAt lines k ∧ ¬ ClosesAt lines k) ∧ e = eventOf (linesBetween lines i n)
  | none => ∀ i < n, OpensAt lines i → ∃ k, i < k ∧ k < n ∧ ClosesAt lines k

variable {lines : List (List Char)}

theorem opensAt_iff {n : Nat} {line : List Char} (h : lines[n]? = some line) :
    OpensAt lines n ↔ Opens line := by
  simp [OpensAt, h]

theorem closesAt_iff {n : Nat} {line : List Char} (h : lines[n]? = some line) :
    ClosesAt lines n ↔ Closes line := by
  simp [ClosesAt, h]

theorem linesBetween_succ {i n : Nat} {line : List Char} (hi : i < n)
    (h : lines[n]? = some line) :
    linesBetween lines i (n + 1) = linesBetween lines i n ++ [line] := by
  obtain ⟨hn, rfl⟩ := List.getElem?_eq_some_iff.mp h
  have hlength : i + 1 ≤ (lines.take n).length := by
    rw [List.length_take]
    omega
  rw [linesBetween, ← List.take_append_getElem hn, List.drop_append_of_le_length hlength]
  rfl

/-- A line that does neither goes to the event under way. -/
theorem Pending.add {n : Nat} {line : List Char} {open? : Option Event}
    (h : Pending lines n open?) (hline : lines[n]? = some line)
    (hopens : ¬ Opens line) (hcloses : ¬ Closes line) :
    Pending lines (n + 1) (open?.map (·.add (markOf line))) := by
  cases open? with
  | none =>
    intro i hi ho
    have hne : i ≠ n := fun he => hopens ((opensAt_iff hline).mp (he ▸ ho))
    obtain ⟨k, hik, hkn, hk⟩ := h i (by omega) ho
    exact ⟨k, hik, by omega, hk⟩
  | some e =>
    obtain ⟨i, hi, ho, hquiet, rfl⟩ := h
    refine ⟨i, by omega, ho, fun k hik hkn => ?_, ?_⟩
    · by_cases hk : k = n
      · rw [hk, opensAt_iff hline, closesAt_iff hline]
        exact ⟨hopens, hcloses⟩
      · exact hquiet k hik (by omega)
    · rw [linesBetween_succ hi hline, eventOf_concat]

theorem pending_opens {n : Nat} {line : List Char} (hline : lines[n]? = some line)
    (hopens : Opens line) : Pending lines (n + 1) (some .empty) := by
  refine ⟨n, by omega, (opensAt_iff hline).mpr hopens, fun k _ _ => by omega, ?_⟩
  have hnil : linesBetween lines n (n + 1) = [] := by
    rw [linesBetween, List.drop_eq_nil_iff, List.length_take]
    omega
  rw [hnil]
  rfl

theorem not_opens_of_closes {line : List Char} (h : Closes line) : ¬ Opens line := fun ho => by
  have hmark := (markOf_eq_opens.mpr ho).symm.trans (markOf_eq_closes.mpr h)
  cases hmark

theorem pending_closes {n : Nat} {line : List Char} (hline : lines[n]? = some line)
    (hcloses : Closes line) : Pending lines (n + 1) none := by
  intro i hi ho
  have hne : i ≠ n := fun he =>
    not_opens_of_closes hcloses ((opensAt_iff hline).mp (he ▸ ho))
  exact ⟨n, by omega, by omega, (closesAt_iff hline).mpr hcloses⟩

/-- The line that ends an event ends the one under way. -/
theorem Pending.isEvent_iff {n : Nat} {line : List Char} {open? : Option Event}
    (h : Pending lines n open?) (hline : lines[n]? = some line) (hcloses : Closes line) :
    (open? = none ∧ ∀ i, ¬ IsEvent lines i n) ∨
      ∃ i, open? = some (eventOf (linesBetween lines i n)) ∧ ∀ i', IsEvent lines i' n ↔ i' = i := by
  cases open? with
  | none =>
    refine .inl ⟨rfl, fun i hi => ?_⟩
    obtain ⟨k, hik, hkn, hk⟩ := h i hi.lt hi.opens
    exact (hi.alone k hik hkn).2 hk
  | some e =>
    obtain ⟨i, hi, ho, hquiet, rfl⟩ := h
    refine .inr ⟨i, rfl, fun i' => ⟨fun hi' => ?_, ?_⟩⟩
    · rcases Nat.lt_trichotomy i' i with hlt | heq | hgt
      · exact absurd ho (hi'.alone i hlt hi).1
      · exact heq
      · exact absurd hi'.opens (hquiet i' hgt hi'.lt).1
    · rintro rfl
      exact ⟨hi, ho, (closesAt_iff hline).mpr hcloses, hquiet⟩

theorem periodsFrom_cons {m : Mark} (hopens : m ≠ .opens) (hcloses : m ≠ .closes)
    (open? : Option Event) (rest : List Mark) :
    periodsFrom open? (m :: rest) = periodsFrom (open?.map (·.add m)) rest := by
  cases m with
  | opens => exact absurd rfl hopens
  | closes => exact absurd rfl hcloses
  | _ => rfl

theorem periodsFrom_closes (open? : Option Event) (rest : List Mark) :
    periodsFrom open? (.closes :: rest) =
      (open?.bind Event.period?).toList ++ periodsFrom none rest := by
  rw [periodsFrom]
  cases open?.bind Event.period? <;> rfl

/-- Where no event ends the events from there on are those after it. -/
theorem Lists.of_succ {n : Nat} {evs : List (Nat × Nat)} (hno : ∀ i, ¬ IsEvent lines i n)
    (h : Lists (fun i j => IsEvent lines i j ∧ n + 1 ≤ j) evs) :
    Lists (fun i j => IsEvent lines i j ∧ n ≤ j) evs where
  ordered := h.ordered
  mem_iff := by
    refine fun i j => (h.mem_iff i j).trans (and_congr_right fun hev => ?_)
    have hne : j ≠ n := fun he => hno i (he ▸ hev)
    omega

/-- Where an event ends it comes before all later ones. -/
theorem Lists.cons {n i : Nat} {evs : List (Nat × Nat)} (hi : ∀ i', IsEvent lines i' n ↔ i' = i)
    (h : Lists (fun i j => IsEvent lines i j ∧ n + 1 ≤ j) evs) :
    Lists (fun i j => IsEvent lines i j ∧ n ≤ j) ((i, n) :: evs) where
  ordered := List.pairwise_cons.mpr ⟨fun e he => ((h.mem_iff e.1 e.2).mp he).2, h.ordered⟩
  mem_iff := by
    intro i' j
    rw [List.mem_cons, h.mem_iff, Prod.mk.injEq]
    constructor
    · rintro (⟨rfl, rfl⟩ | ⟨hev, hj⟩)
      · exact ⟨(hi i').mpr rfl, Nat.le_refl _⟩
      · exact ⟨hev, by omega⟩
    · rintro ⟨hev, hj⟩
      by_cases hjn : j = n
      · subst hjn
        exact .inl ⟨(hi i').mp hev, rfl⟩
      · exact .inr ⟨hev, by omega⟩

/-- The periods that are read from the lines from `n` on are those of the events that end there. -/
theorem periodsFrom_eq {n : Nat} {open? : Option Event} (h : Pending lines n open?) :
    ∃ evs, Lists (fun i j => IsEvent lines i j ∧ n ≤ j) evs ∧
      periodsFrom open? ((lines.drop n).map markOf) =
        evs.filterMap fun e => (eventOf (linesBetween lines e.1 e.2)).period? := by
  induction hm : lines.length - n generalizing n open? with
  | zero =>
    refine ⟨[], ⟨.nil, fun i j => ?_⟩, ?_⟩
    · refine ⟨fun h => (by cases h), fun ⟨hev, hj⟩ => ?_⟩
      obtain ⟨line, hline, -⟩ := hev.closes
      have := (List.getElem?_eq_some_iff.mp hline).1
      omega
    · rw [List.drop_eq_nil_of_le (by omega)]
      rfl
  | succ m ih =>
    have hn : n < lines.length := by omega
    have hline : lines[n]? = some lines[n] := List.getElem?_eq_getElem hn
    rw [List.drop_eq_getElem_cons hn, List.map_cons]
    by_cases hcloses : Closes lines[n]
    · obtain ⟨evs, hevs, hperiods⟩ := ih (pending_closes hline hcloses) (by omega)
      rw [markOf_eq_closes.mpr hcloses, periodsFrom_closes, hperiods]
      rcases h.isEvent_iff hline hcloses with ⟨rfl, hno⟩ | ⟨i, rfl, hi⟩
      · exact ⟨evs, hevs.of_succ hno, rfl⟩
      · refine ⟨(i, n) :: evs, hevs.cons hi, ?_⟩
        rw [List.filterMap_cons, Option.bind_some]
        cases (eventOf (linesBetween lines i n)).period? <;> rfl
    · have hno : ∀ i, ¬ IsEvent lines i n := fun i hi => hcloses ((closesAt_iff hline).mp hi.closes)
      by_cases hopens : Opens lines[n]
      · obtain ⟨evs, hevs, hperiods⟩ := ih (pending_opens hline hopens) (by omega)
        refine ⟨evs, hevs.of_succ hno, ?_⟩
        rw [markOf_eq_opens.mpr hopens, periodsFrom, hperiods]
      · obtain ⟨evs, hevs, hperiods⟩ := ih (h.add hline hopens hcloses) (by omega)
        refine ⟨evs, hevs.of_succ hno, ?_⟩
        rw [periodsFrom_cons (mt markOf_eq_opens.mp hopens) (mt markOf_eq_closes.mp hcloses),
          hperiods]

end Lodging.Calendar
