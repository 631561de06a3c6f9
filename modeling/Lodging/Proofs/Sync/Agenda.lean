import Lodging.Proofs.Sync.Turns
import Lodging.Sync.Timetable

/-! # Turns of tasks

At every time of a timetable the turns to come are known: those of tasks that are due, and those of tasks
that wait for a time. A step takes one of them off this agenda and puts down what follows from it. The
agenda is in such an order that a turn stays at its place in it when its task starts to wait. -/

namespace Lodging.Sync.Timetable

/-! ## What is to come -/

def Action.asks : Action → Bool
  | .begin | .arrive => true
  | .enter | .leave => false

/-- All turns that are known of, with their times. Those at a later time were put down first. -/
def State.agenda (s : State) : List (Nat × Nat × Action) := s.timers ++ s.due.map (s.now, ·)

def State.askers (s : State) : List Nat := (s.agenda.filter (·.2.2.asks)).map (·.2.1)

section

variable (tasks : List Task) (listing : Int)

/-- The task at a place in the list, if it is for the listing. -/
def member? (id : Nat) : Option (Task × Nat) :=
  (tasks[id]?.filter (·.listing == listing)).map (·, id)

def asking? (e : Nat × Nat × Action) : Option (Task × Nat) :=
  if e.2.2.asks then member? tasks listing e.2.1 else none

def isActing (e : Nat × Nat × Action) : Bool :=
  !e.2.2.asks && (member? tasks listing e.2.1).isSome

def concerns (e : Entry) : Bool := (member? tasks listing e.task).isSome

end

def Known (tasks : List Task) (e : Nat × Nat × Action) : Prop :=
  ∃ t, tasks[e.2.1]? = some t ∧ (e.2.2 = .begin → e.1 = 0) ∧ (e.2.2 = .arrive → e.1 = t.arrival)

/-- Turns are of tasks at their times, and no task asks twice. -/
structure Timely (tasks : List Task) (s : State) : Prop where
  locks : s.locks.Consistent
  later : ∀ e ∈ s.timers, s.now < e.1
  known : ∀ e ∈ s.agenda, Known tasks e
  once : s.askers.Nodup
  unasked : ∀ i ∈ s.askers, s.locks.asked? i = none

variable {tasks : List Task} {listing : Int} {s s' : State}

/-- A task that does not ask may act at any time. -/
theorem known_of_acts {time i : Nat} {a : Action} {t : Task} (ht : tasks[i]? = some t)
    (ha : a.asks = false) : Known tasks (time, i, a) := by
  refine ⟨t, ht, fun hbegin => ?_, fun harrive => ?_⟩
  · obtain rfl : a = .begin := hbegin
    cases ha
  · obtain rfl : a = .arrive := harrive
    cases ha

theorem member?_eq_some {id : Nat} {p : Task × Nat} :
    member? tasks listing id = some p ↔
      tasks[id]? = some p.1 ∧ p.1.listing = listing ∧ p.2 = id := by
  simp only [member?, Option.map_eq_some_iff, Option.filter_eq_some_iff, beq_iff_eq]
  constructor
  · rintro ⟨t, ⟨ht, hl⟩, rfl⟩
    exact ⟨ht, hl, rfl⟩
  · rintro ⟨ht, hl, rfl⟩
    exact ⟨p.1, ⟨ht, hl⟩, rfl⟩

theorem member?_of_ne {id : Nat} {t : Task} (ht : tasks[id]? = some t) (hne : t.listing ≠ listing) :
    member? tasks listing id = none := by
  simp [member?, ht, Option.filter, hne]

theorem member?_self {id : Nat} {t : Task} (ht : tasks[id]? = some t) :
    member? tasks t.listing id = some (t, id) :=
  member?_eq_some.mpr ⟨ht, rfl, rfl⟩

/-! ## What a step can do -/

/-- Who holds the mutex of a task when the task has given its ticket back. -/
def next? (l : Locks Nat) (i : Nat) : Option Nat :=
  ((l.ticket? i).bind fun t => (l.release (· == i)).holder? t.mutex).map (·.owner)

/-- A turn leaves the clock alone; these are the locks and the agenda after it, and what was written. -/
structure Turns (s s' : State) (locks : Locks Nat) (agenda : List (Nat × Nat × Action))
    (written : List Entry) : Prop where
  now : s'.now = s.now
  locks : s'.locks = locks
  agenda : s'.agenda = agenda
  log : s'.log = s.log ++ written
  later : (∀ e ∈ s.timers, s.now < e.1) → ∀ e ∈ s'.timers, s.now < e.1

/-- A task takes its turn, or nobody is due and time moves on. -/
inductive Tick (tasks : List Task) (s s' : State) : Prop
  | begin {i : Nat} {t : Task} {rest : List (Nat × Nat × Action)} : tasks[i]? = some t →
      s.agenda = s.timers ++ (s.now, i, .begin) :: rest →
      Turns s s' s.locks (s.timers ++ (s.now + t.arrival, i, .arrive) :: rest) [] → Tick tasks s s'
  | arrive {i : Nat} {t : Task} {rest : List (Nat × Nat × Action)} : tasks[i]? = some t →
      s.agenda = s.timers ++ (s.now, i, .arrive) :: rest →
      Turns s s' (s.locks.lock i t.listing) (s.timers ++
        ((if (s.locks.lock i t.listing).holds i then [(s.now, i, .enter)] else []) ++ rest)) [] →
      Tick tasks s s'
  | enter {i : Nat} {t : Task} {rest : List (Nat × Nat × Action)} : tasks[i]? = some t →
      s.agenda = s.timers ++ (s.now, i, .enter) :: rest →
      Turns s s' s.locks (s.timers ++ (s.now + t.hold, i, .leave) :: rest)
        [⟨s.now, .locked, i⟩] → Tick tasks s s'
  | leave {i : Nat} {t : Task} {rest : List (Nat × Nat × Action)} : tasks[i]? = some t →
      s.agenda = s.timers ++ (s.now, i, .leave) :: rest →
      Turns s s' (s.locks.release (· == i))
        (s.timers ++ (rest ++ (next? s.locks i).toList.map (s.now, ·, .enter)))
        [⟨s.now, .released, i⟩] → Tick tasks s s'
  | advance {time : Nat} : s.agenda = s.timers → time ∈ s.timers.map (·.1) →
      (∀ e ∈ s.timers, time ≤ e.1) → s'.now = time → s'.locks = s.locks → s'.log = s.log →
      s'.agenda = s.timers.filter (·.1 != time) ++ s.timers.filter (·.1 == time) →
      (∀ e ∈ s'.timers, time < e.1) → Tick tasks s s'

/-- A task that waits takes one turn and is to have another. -/
theorem turns_wait (s : State) (written : List Entry) (ms i : Nat) (a : Action) :
    Turns s ({ s with log := s.log ++ written }.wait ms i a) s.locks
      (s.timers ++ (s.now + ms, i, a) :: s.due.map (s.now, ·)) written := by
  unfold State.wait
  split
  · next hms => exact ⟨rfl, rfl, by simp [State.agenda, hms], rfl, fun h => h⟩
  · next hms =>
    refine ⟨rfl, rfl, by simp [State.agenda], rfl, fun h => ?_⟩
    refine List.forall_mem_append.mpr ⟨h, List.forall_mem_singleton.mpr ?_⟩
    show s.now < s.now + ms
    omega

theorem turns_leave (s : State) (written : List Entry) (i : Nat) :
    Turns s ({ s with log := s.log ++ written }.leave i) (s.locks.release (· == i))
      (s.timers ++ (s.due.map (s.now, ·) ++ (next? s.locks i).toList.map (s.now, ·, .enter)))
      written := by
  refine ⟨rfl, rfl, ?_, rfl, fun h => h⟩
  simp only [State.agenda, State.leave, next?, List.map_append, List.map_map]
  cases (s.locks.ticket? i).bind fun t => (s.locks.release (· == i)).holder? t.mutex <;> rfl

theorem tick_advance (hdue : s.due = []) (h : s.advance? = some s') : Tick tasks s s' := by
  obtain ⟨time, htime, rfl⟩ := Option.map_eq_some_iff.mp h
  obtain ⟨hmem, hle⟩ := List.min?_eq_some_iff.mp htime
  have hle : ∀ e ∈ s.timers, time ≤ e.1 := fun e he => hle e.1 (List.mem_map_of_mem he)
  refine .advance (by simp [State.agenda, hdue]) hmem hle rfl rfl rfl ?_ ?_
  · -- whoever is due now was put down for this time
    have hdue : ∀ e ∈ s.timers.filter (·.1 == time), (time, e.2) = e := by
      intro e he
      have htime : e.1 = time := by simpa using (List.mem_filter.mp he).2
      rw [← htime]
    simp only [State.agenda, List.map_map]
    exact congrArg _ ((List.map_congr_left hdue).trans (List.map_id _))
  · intro e he
    obtain ⟨he, hne⟩ := List.mem_filter.mp he
    have hne : e.1 ≠ time := by simpa using hne
    have := hle e he
    omega

/-- Every step is a turn of a task or moves time on. -/
theorem tick_of_step? (hknown : ∀ e ∈ s.due, ∃ t, tasks[e.1]? = some t)
    (h : s.step? tasks = some s') : Tick tasks s s' := by
  unfold State.step? at h
  split at h
  · next hdue => exact tick_advance hdue h
  · next i a rest hdue =>
    obtain ⟨t, ht⟩ := hknown (i, a) (by simp [hdue])
    have hag : s.agenda = s.timers ++ (s.now, i, a) :: rest.map (s.now, ·) := by
      simp [State.agenda, hdue]
    simp only [ht, Option.some.injEq] at h
    subst h
    cases a with
    | begin =>
      have hturns := turns_wait { s with due := rest } [] t.arrival i .arrive
      rw [List.append_nil] at hturns
      exact .begin ht hag ⟨hturns.now, hturns.locks, hturns.agenda, hturns.log, hturns.later⟩
    | arrive =>
      refine .arrive ht hag ?_
      simp only [State.act]
      split
      · next hholds =>
        exact ⟨rfl, rfl, by simp [State.agenda], by simp, fun h => h⟩
      · exact ⟨rfl, rfl, by simp [State.agenda], by simp, fun h => h⟩
    | enter =>
      have hturns := turns_wait { s with due := rest } [⟨s.now, .locked, i⟩] t.hold i .leave
      exact .enter ht hag ⟨hturns.now, hturns.locks, hturns.agenda, hturns.log, hturns.later⟩
    | leave =>
      have hturns := turns_leave { s with due := rest } [⟨s.now, .released, i⟩] i
      exact .leave ht hag ⟨hturns.now, hturns.locks, hturns.agenda, hturns.log, hturns.later⟩

/-! ## Tasks at their times -/

theorem Timely.now_le (h : Timely tasks s) : ∀ e ∈ s.agenda, s.now ≤ e.1 := by
  intro e he
  rcases List.mem_append.mp he with he | he
  · exact Nat.le_of_lt (h.later e he)
  · obtain ⟨_, -, rfl⟩ := List.mem_map.mp he
    exact Nat.le_refl _

/-- Whoever is to ask does so when he arrives, if he has looked at the clock. -/
theorem Timely.arrival_of_asking (h : Timely tasks s) {e : Nat × Nat × Action} (he : e ∈ s.agenda)
    {p : Task × Nat} (hp : asking? tasks listing e = some p) : e.1 = 0 ∨ e.1 = p.1.arrival := by
  obtain ⟨time, i, a⟩ := e
  obtain ⟨ha, hp⟩ := Option.ite_none_right_eq_some.mp hp
  obtain ⟨t, ht, hbegin, harrive⟩ := h.known _ he
  obtain rfl : t = p.1 := Option.some.inj (ht.symm.trans (member?_eq_some.mp hp).1)
  cases a with
  | begin => exact .inl (hbegin rfl)
  | arrive => exact .inr (harrive rfl)
  | enter | leave => cases ha

/-- Who holds the mutex next is the first in line after the one who leaves. -/
theorem next?_eq {l : Locks Nat} (hl : l.Consistent) {i : Nat} (hi : l.asked? i = some listing) :
    next? l i = ((l.line listing).filter (· ≠ i)).head? := by
  obtain ⟨t, ht, rfl⟩ := Option.map_eq_some_iff.mp hi
  have hlookup : l.registry.lookup t.listing = some t.mutex :=
    (Locks.lookup_eq_some_iff_mem hl.keys).mpr (hl.registered t (Locks.ticket?_mem ht).1)
  have howner := (hl.release (· == i)).owner?_eq_head? t.listing
  rw [Locks.line_release] at howner
  rw [← howner, Locks.owner?, Locks.holderOf?, next?, ht]
  show _ = ((l.registry.lookup t.listing).bind _).map _
  rw [hlookup]
  rfl

end Lodging.Sync.Timetable
