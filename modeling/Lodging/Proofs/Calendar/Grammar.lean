import Lodging.Proofs.Calendar.Events

/-! # What a document is read as

A text is a calendar if one of its lines begins one, and then its periods are those of its usable events,
in their order. Nothing else in it counts: documents whose events have the same dates, in lines that say
the same, and are cancelled alike have the same periods. -/

namespace Lodging.Calendar

/-! ## Lines that do not count -/

structure Irrelevant (line : List Char) : Prop where
  starts : ∀ v, ¬ Says line "DTSTART" v
  ends : ∀ v, ¬ Says line "DTEND" v
  cancels : ¬ Cancels line

/-- But for irrelevant lines the lines say the same one after another. -/
inductive Alike : List (List Char) → List (List Char) → Prop
  | nil : Alike [] []
  | starts {line line' v : List Char} {body body' : List (List Char)} : Says line "DTSTART" v →
      Says line' "DTSTART" v → Alike body body' → Alike (line :: body) (line' :: body')
  | ends {line line' v : List Char} {body body' : List (List Char)} : Says line "DTEND" v →
      Says line' "DTEND" v → Alike body body' → Alike (line :: body) (line' :: body')
  | cancels {line line' : List Char} {body body' : List (List Char)} : Cancels line →
      Cancels line' → Alike body body' → Alike (line :: body) (line' :: body')
  | left {line : List Char} {body body' : List (List Char)} : Irrelevant line →
      Alike body body' → Alike (line :: body) body'
  | right {line : List Char} {body body' : List (List Char)} : Irrelevant line →
      Alike body body' → Alike body (line :: body')

theorem Irrelevant.add {line : List Char} (h : Irrelevant line) (e : Event) :
    e.add (markOf line) = e := by
  cases hmark : markOf line with
  | starts v => exact absurd (markOf_eq_starts.mp hmark) (h.starts v)
  | ends v => exact absurd (markOf_eq_ends.mp hmark) (h.ends v)
  | cancels => exact absurd (markOf_eq_cancels.mp hmark) h.cancels
  | _ => rfl

theorem Alike.foldl_eq {body body' : List (List Char)} (h : Alike body body') (e : Event) :
    (body.map markOf).foldl Event.add e = (body'.map markOf).foldl Event.add e := by
  induction h generalizing e with
  | nil => rfl
  | starts h h' _ ih =>
    rw [List.map_cons, List.map_cons, markOf_eq_starts.mpr h, markOf_eq_starts.mpr h']
    exact ih _
  | ends h h' _ ih =>
    rw [List.map_cons, List.map_cons, markOf_eq_ends.mpr h, markOf_eq_ends.mpr h']
    exact ih _
  | cancels h h' _ ih =>
    rw [List.map_cons, List.map_cons, markOf_eq_cancels.mpr h, markOf_eq_cancels.mpr h']
    exact ih _
  | left h _ ih =>
    rw [List.map_cons, List.foldl_cons, h.add]
    exact ih _
  | right h _ ih =>
    rw [List.map_cons, List.foldl_cons, h.add]
    exact ih _

theorem Alike.eventOf_eq {body body' : List (List Char)} (h : Alike body body') :
    eventOf body = eventOf body' :=
  h.foldl_eq .empty

/-! ## Documents -/

theorem Lists.unique {P : Nat → Nat → Prop} {evs evs' : List (Nat × Nat)} (h : Lists P evs)
    (h' : Lists P evs') : evs = evs' := by
  have hirrefl : Std.Irrefl fun a b : Nat × Nat => a.2 < b.2 := ⟨fun _ => Nat.lt_irrefl _⟩
  have hantisymm : Std.Antisymm fun a b : Nat × Nat => a.2 < b.2 :=
    ⟨fun _ _ hab hba => absurd hab (Nat.lt_asymm hba)⟩
  exact List.Pairwise.eq_of_mem_iff h.ordered h'.ordered fun e =>
    (h.mem_iff e.1 e.2).trans (h'.mem_iff e.1 e.2).symm

/-- All events of the lines, and the periods that are read from them. -/
theorem exists_events (lines : List (List Char)) : ∃ evs, Lists (IsEvent lines) evs ∧
    periodsFrom none (lines.map markOf) =
      evs.filterMap fun e => (eventOf (linesBetween lines e.1 e.2)).period? := by
  have hstart : Pending lines 0 none := fun i hi => absurd hi (Nat.not_lt_zero i)
  obtain ⟨evs, hevs, hperiods⟩ := periodsFrom_eq hstart
  refine ⟨evs, ⟨hevs.ordered, fun i j => ?_⟩, hperiods⟩
  rw [hevs.mem_iff]
  exact and_iff_left (Nat.zero_le j)

theorem forall₂_filterMap {α β : Type} (f : α → Option β) (l : List α) :
    List.Forall₂ (fun a b => f a = some b) (l.filter fun a => (f a).isSome) (l.filterMap f) := by
  induction l with
  | nil => exact .nil
  | cons a l ih =>
    cases h : f a with
    | none => simpa [h] using ih
    | some b => simpa [h] using ih

theorem filterMap_eq_of_forall₂ {α β γ : Type} {f : α → Option γ} {g : β → Option γ}
    {l : List α} {m : List β} (h : List.Forall₂ (fun a b => f a = g b) l m) :
    l.filterMap f = m.filterMap g := by
  induction h with
  | nil => rfl
  | cons hab _ ih => rw [List.filterMap_cons, List.filterMap_cons, hab, ih]

/-- The usable ones of the events, in their order, take up the periods. -/
theorem exists_usable (lines : List (List Char)) :
    ∃ evs, Lists (fun i j => IsEvent lines i j ∧ Usable (linesBetween lines i j)) evs ∧
      List.Forall₂ (fun e p => TakesUp (linesBetween lines e.1 e.2) p ∧ p.start < p.stop) evs
        (periodsFrom none (lines.map markOf)) := by
  obtain ⟨evs, hevs, hperiods⟩ := exists_events lines
  have hread := forall₂_filterMap
    (fun e : Nat × Nat => (eventOf (linesBetween lines e.1 e.2)).period?) evs
  rw [← hperiods] at hread
  refine ⟨_, ⟨hevs.ordered.filter _, fun i j => ?_⟩, hread.imp fun e p hp =>
    ⟨(period?_eventOf hp).2, Event.period?_nonempty hp⟩⟩
  rw [List.mem_filter, hevs.mem_iff, Option.isSome_iff_exists]
  exact and_congr_right fun _ =>
    ⟨fun ⟨p, hp⟩ => (period?_eventOf hp).1, fun husable => husable.exists_period?⟩

/-- The physical lines of a text are those that its line feeds end, and its logical lines what they make
up. The text fails to be read exactly if no logical line begins a calendar. Otherwise its periods are
those that its usable events take up, one after another, none of them empty; and in any other calendar
with the same events, up to lines that do not count, the same periods are read. -/
theorem readDocument_exact (s : String) :
    (∀ lines, Physical s.toList lines ↔ physicalLines s.toList = lines) ∧
    Unfolds (physicalLines s.toList) (logicalLines s.toList) ∧
    ((∃ e, readDocument s = .error e) ↔ ∀ line ∈ logicalLines s.toList,
      Text.sameAscii (Text.trim line) "BEGIN:VCALENDAR".toList = false) ∧
    (∀ ps, readDocument s = .ok ps → ∃ evs,
      Lists (fun i j => IsEvent (logicalLines s.toList) i j ∧
        Usable (linesBetween (logicalLines s.toList) i j)) evs ∧
      List.Forall₂ (fun e p => TakesUp (linesBetween (logicalLines s.toList) e.1 e.2) p ∧
        p.start < p.stop) evs ps) ∧
    (∀ (t : String) evs evs' ps ps', readDocument s = .ok ps → readDocument t = .ok ps' →
      Lists (IsEvent (logicalLines s.toList)) evs → Lists (IsEvent (logicalLines t.toList)) evs' →
      List.Forall₂ (fun e e' => Alike (linesBetween (logicalLines s.toList) e.1 e.2)
        (linesBetween (logicalLines t.toList) e'.1 e'.2)) evs evs' → ps = ps') := by
  refine ⟨fun _ => physical_iff, unfolds_logicalLines _, ?_, fun ps h => ?_,
    fun t evs evs' ps ps' h h' hevs hevs' hall => ?_⟩
  · dsimp only [readDocument]
    split
    · next hany =>
      obtain ⟨line, hline, hbegins⟩ := List.any_eq_true.mp hany
      refine ⟨fun ⟨e, he⟩ => (by cases he), fun hno => ?_⟩
      rw [beginsCalendar, hno line hline] at hbegins
      cases hbegins
    · next hany =>
      refine ⟨fun _ line hline => Bool.eq_false_iff.mpr fun hbegins => hany ?_, fun _ => ⟨_, rfl⟩⟩
      exact List.any_eq_true.mpr ⟨line, hline, hbegins⟩
  · obtain rfl := periods_of_readDocument h
    exact exists_usable _
  · obtain ⟨all, hlists, hperiods⟩ := exists_events (logicalLines s.toList)
    obtain ⟨all', hlists', hperiods'⟩ := exists_events (logicalLines t.toList)
    obtain rfl := hlists.unique hevs
    obtain rfl := hlists'.unique hevs'
    rw [periods_of_readDocument h, periods_of_readDocument h', hperiods, hperiods']
    exact filterMap_eq_of_forall₂ (hall.imp fun e e' halike => by rw [halike.eventOf_eq])

/-- A colon in quotes parts nothing, a date may be folded, and the stray end of an event ends none. -/
example : readDocument ("BEGIN:VCALENDAR\nEND:VEVENT\nBEGIN:VEVENT\nDTSTART:20250101\n" ++
    "Begin:vevent\nDTSTART;X=\"a:b\":2025\n 0701\nSUMMARY:DTEND:20250801\nEND:VEVENT") =
    .ok [⟨⟨Civil.number ⟨2025, 7, 1⟩, by decide⟩, ⟨Civil.number ⟨2025, 7, 2⟩, by decide⟩⟩] := by
  decide +kernel

end Lodging.Calendar
