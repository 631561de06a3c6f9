import Lodging.Proofs.Sync.Agenda
import Lodging.Proofs.Sync.Rounds
import Mathlib.Algebra.Order.BigOperators.Group.List
import Mathlib.Algebra.Order.Ring.Nat

/-! # The timetable is one of rounds

For every listing the line for its lock, the one turn of its first and the tasks that are to ask for it
tell what is to come. No step changes what has happened and what is to come taken together, and steps
for other listings change neither. There are at most six steps for a task, so a run comes to its end,
where nothing is to come. -/

namespace Lodging.Sync.Timetable

/-! ## What is to come for a listing -/

/-- What is to come for a lock from a line of tasks, the turns of those that have it, and the tasks
that are to ask for it. The first in the line has one turn, and no other task has any. -/
inductive Ahead (now : Nat) :
    List (Task × Nat) → List (Nat × Nat × Action) → List (Task × Nat) → List Entry → Prop
  | free {coming : List (Task × Nat)} : Ahead now [] [] coming (rounds now coming)
  | enter {t : Task} {id : Nat} {line coming : List (Task × Nat)} :
      Ahead now ((t, id) :: line) [(now, id, .enter)] coming (rounds now ((t, id) :: (line ++ coming)))
  | leave {t : Task} {id time : Nat} {line coming : List (Task × Nat)} :
      Ahead now ((t, id) :: line) [(time, id, .leave)] coming
        (⟨time, .released, id⟩ :: rounds time (line ++ coming))

/-- What is to come for the lock of a listing. -/
structure Course (tasks : List Task) (listing : Int) (s : State) (queue : List (Task × Nat))
    (acting : List (Nat × Nat × Action)) (coming : List (Task × Nat)) (future : List Entry) :
    Prop where
  line : s.locks.line listing = queue.map (·.2)
  known : ∀ p ∈ queue, member? tasks listing p.2 = some p ∧ p.1.arrival ≤ s.now
  turns : s.agenda.filter (isActing tasks listing) = acting
  askers : byArrival (s.agenda.filterMap (asking? tasks listing)) = coming
  ahead : Ahead s.now queue acting coming future

/-- What has happened to a lock and what is to come make up its rounds. -/
def OnCourse (tasks : List Task) (listing : Int) (s : State) : Prop :=
  ∃ queue acting coming future, Course tasks listing s queue acting coming future ∧
    s.log.filter (concerns tasks listing) ++ future = rounds 0 (arrivals tasks listing)

variable {tasks : List Task} {listing : Int} {s s' : State}

theorem eq_of_append_cons_eq_singleton {α : Type} {l r : List α} {a b : α} (h : l ++ a :: r = [b]) :
    l = [] ∧ a = b ∧ r = [] := by
  cases l with
  | nil => exact ⟨rfl, List.cons.inj h⟩
  | cons c l => simp at h

/-- A task whose turn it is to act is the first in the line of its listing. -/
theorem OnCourse.first {i time : Nat} {a : Action} {t : Task} (h : OnCourse tasks t.listing s)
    (ht : tasks[i]? = some t) (ha : a.asks = false) (hmem : (time, i, a) ∈ s.agenda) :
    ∃ line, s.locks.line t.listing = i :: line := by
  obtain ⟨queue, acting, coming, future, hcourse, -⟩ := h
  have hacting : (time, i, a) ∈ acting := by
    rw [← hcourse.turns, List.mem_filter]
    exact ⟨hmem, by simp [isActing, ha, member?_self ht]⟩
  have hline := hcourse.line
  cases hcourse.ahead with
  | free => cases hacting
  | enter | leave =>
    obtain ⟨-, rfl, -⟩ := Prod.mk.inj (List.mem_singleton.mp hacting)
    exact ⟨_, hline⟩

/-- Who gets a lock when its holder leaves is the next in line. -/
theorem OnCourse.next? {i : Nat} {t : Task} (h : OnCourse tasks t.listing s)
    (hl : s.locks.Consistent) (ht : tasks[i]? = some t) (hmem : (s.now, i, .leave) ∈ s.agenda) :
    ∃ line, s.locks.line t.listing = i :: line ∧ i ∉ line ∧
      Timetable.next? s.locks i = line.head? := by
  obtain ⟨line, hline⟩ := h.first ht rfl hmem
  have hnodup : (s.locks.line t.listing).Nodup := hl.nodup_line _
  rw [hline, List.nodup_cons] at hnodup
  refine ⟨line, hline, hnodup.1, ?_⟩
  have hi : s.locks.asked? i = some t.listing := hl.mem_line.mp (by simp [hline])
  have hrest : (i :: line).filter (· ≠ i) = line := by
    rw [List.filter_cons_of_neg (by simp)]
    exact List.filter_eq_self.mpr fun j hj => decide_eq_true fun he => hnodup.1 (he ▸ hj)
  rw [next?_eq hl hi, hline, hrest]

theorem OnCourse.member? {i : Nat} (h : OnCourse tasks listing s) (hi : i ∈ s.locks.line listing) :
    ∃ t, Timetable.member? tasks listing i = some (t, i) ∧ t.arrival ≤ s.now := by
  obtain ⟨queue, acting, coming, future, hcourse, -⟩ := h
  rw [hcourse.line] at hi
  obtain ⟨⟨t, j⟩, hp, rfl⟩ := List.mem_map.mp hi
  exact ⟨t, hcourse.known _ hp⟩

/-! ## Tasks in time -/

section

variable {i : Nat} {t : Task} {rest : List (Nat × Nat × Action)}

theorem Timely.begin (h : Timely tasks s) (ht : tasks[i]? = some t)
    (hag : s.agenda = s.timers ++ (s.now, i, .begin) :: rest)
    (hturns : Turns s s' s.locks (s.timers ++ (s.now + t.arrival, i, .arrive) :: rest) []) :
    Timely tasks s' := by
  have haskers : s'.askers = s.askers := by
    simp [State.askers, hturns.agenda, hag, Action.asks]
  have hknown := h.known
  simp only [hag, List.forall_mem_append, List.forall_mem_cons] at hknown
  obtain ⟨hearlier, ⟨-, -, hbegin, -⟩, hrest⟩ := hknown
  have hknown' : Known tasks (s.now + t.arrival, i, .arrive) := by
    have hzero : s.now = 0 := hbegin rfl
    refine ⟨t, ht, fun he => ?_, fun _ => ?_⟩
    · cases he
    · show s.now + t.arrival = t.arrival
      omega
  refine ⟨hturns.locks ▸ h.locks, hturns.now ▸ hturns.later h.later, ?_, haskers ▸ h.once,
    haskers ▸ hturns.locks ▸ h.unasked⟩
  simp only [hturns.agenda, List.forall_mem_append, List.forall_mem_cons]
  exact ⟨hearlier, hknown', hrest⟩

theorem Timely.arrive (h : Timely tasks s) (ht : tasks[i]? = some t)
    (hag : s.agenda = s.timers ++ (s.now, i, .arrive) :: rest)
    (hturns : Turns s s' (s.locks.lock i t.listing) (s.timers ++
      ((if (s.locks.lock i t.listing).holds i then [(s.now, i, .enter)] else []) ++ rest)) []) :
    Timely tasks s' := by
  have haskers : s.askers = (s.timers.filter (·.2.2.asks)).map (·.2.1) ++
      i :: (rest.filter (·.2.2.asks)).map (·.2.1) := by
    simp [State.askers, hag, Action.asks]
  have haskers' : s'.askers = (s.timers.filter (·.2.2.asks)).map (·.2.1) ++
      (rest.filter (·.2.2.asks)).map (·.2.1) := by
    rw [State.askers, hturns.agenda]
    split <;> simp [Action.asks]
  -- the task asks now, and no other question of its own is to come
  have honce := h.once
  rw [haskers, List.nodup_middle, List.nodup_cons, ← haskers'] at honce
  have hi : s.locks.asked? i = none := h.unasked i (by simp [haskers])
  refine ⟨hturns.locks ▸ h.locks.lock (Locks.asked?_eq_none_iff.mp hi),
    hturns.now ▸ hturns.later h.later, ?_, honce.2, fun j hj => ?_⟩
  · have hknown := h.known
    simp only [hag, List.forall_mem_append, List.forall_mem_cons] at hknown
    simp only [hturns.agenda, List.forall_mem_append]
    refine ⟨hknown.1, fun e he => ?_, hknown.2.2⟩
    split at he
    · exact List.mem_singleton.mp he ▸ known_of_acts ht rfl
    · cases he
  · have hne : j ≠ i := fun he => honce.1 (he ▸ hj)
    rw [hturns.locks, Locks.asked?_lock hi, if_neg hne]
    refine h.unasked j ?_
    rw [haskers'] at hj
    rw [haskers]
    simp only [List.mem_append, List.mem_cons] at hj ⊢
    exact hj.imp_right .inr

theorem Timely.enter (h : Timely tasks s) (ht : tasks[i]? = some t)
    (hag : s.agenda = s.timers ++ (s.now, i, .enter) :: rest)
    (hturns : Turns s s' s.locks (s.timers ++ (s.now + t.hold, i, .leave) :: rest)
      [⟨s.now, .locked, i⟩]) : Timely tasks s' := by
  have haskers : s'.askers = s.askers := by
    simp [State.askers, hturns.agenda, hag, Action.asks]
  have hknown := h.known
  simp only [hag, List.forall_mem_append, List.forall_mem_cons] at hknown
  refine ⟨hturns.locks ▸ h.locks, hturns.now ▸ hturns.later h.later, ?_, haskers ▸ h.once,
    haskers ▸ hturns.locks ▸ h.unasked⟩
  simp only [hturns.agenda, List.forall_mem_append, List.forall_mem_cons]
  exact ⟨hknown.1, known_of_acts ht rfl, hknown.2.2⟩

theorem Timely.leave (h : Timely tasks s) (hs : OnCourse tasks t.listing s)
    (ht : tasks[i]? = some t) (hag : s.agenda = s.timers ++ (s.now, i, .leave) :: rest)
    (hturns : Turns s s' (s.locks.release (· == i))
      (s.timers ++ (rest ++ (Timetable.next? s.locks i).toList.map (s.now, ·, .enter)))
      [⟨s.now, .released, i⟩]) : Timely tasks s' := by
  have haskers : s'.askers = s.askers := by
    rw [State.askers, State.askers, hturns.agenda, hag]
    cases Timetable.next? s.locks i <;> simp [Action.asks]
  obtain ⟨line, hline, -, hnext⟩ := hs.next? h.locks ht (by simp [hag])
  have hknown := h.known
  simp only [hag, List.forall_mem_append, List.forall_mem_cons] at hknown
  refine ⟨hturns.locks ▸ h.locks.release _, hturns.now ▸ hturns.later h.later, ?_,
    haskers ▸ h.once, fun j hj => ?_⟩
  · simp only [hturns.agenda, List.forall_mem_append]
    refine ⟨hknown.1, hknown.2.2, fun e he => ?_⟩
    obtain ⟨j, hj, rfl⟩ := List.mem_map.mp he
    rw [hnext, Option.mem_toList] at hj
    have hj : j ∈ s.locks.line t.listing := hline ▸ List.mem_cons_of_mem _ (List.mem_of_head? hj)
    obtain ⟨u, hu, -⟩ := hs.member? hj
    exact known_of_acts (member?_eq_some.mp hu).1 rfl
  · rw [hturns.locks, Locks.asked?_release]
    split
    · rfl
    · exact h.unasked j (haskers ▸ hj)

end

theorem Timely.tick (h : Timely tasks s) (hs : ∀ listing, OnCourse tasks listing s)
    (htick : Tick tasks s s') : Timely tasks s' := by
  cases htick with
  | begin ht hag hturns => exact h.begin ht hag hturns
  | arrive ht hag hturns => exact h.arrive ht hag hturns
  | enter ht hag hturns => exact h.enter ht hag hturns
  | leave ht hag hturns => exact h.leave (hs _) ht hag hturns
  | advance hag _ _ hnow hlocks _ hag' hlater =>
    have hperm : s'.agenda.Perm s.agenda := by
      rw [hag', hag]
      exact List.perm_append_comm.trans (List.filter_append_perm _ _)
    have haskers : s'.askers.Perm s.askers := (hperm.filter _).map _
    exact ⟨hlocks ▸ h.locks, hnow ▸ hlater, fun e he => h.known e (hperm.mem_iff.mp he),
      haskers.nodup_iff.mpr h.once, fun i hi => hlocks ▸ h.unasked i (haskers.mem_iff.mp hi)⟩

/-! ## Rounds of a listing -/

/-- The next task that comes joins the line; it enters at once if there is none. -/
theorem Ahead.join {now i : Nat} {t : Task} {queue coming : List (Task × Nat)}
    {acting : List (Nat × Nat × Action)} {future : List Entry}
    (h : Ahead now queue acting ((t, i) :: coming) future) :
    Ahead now (queue ++ [(t, i)]) (if queue = [] then [(now, i, .enter)] else acting) coming future := by
  cases h with
  | free => exact .enter
  | @enter _ _ line =>
    rw [if_neg (by simp), List.append_cons line]
    exact .enter
  | @leave _ _ _ line =>
    rw [if_neg (by simp), List.append_cons line]
    exact .leave

/-- The first in line gets the lock, and keeps it for its time. -/
theorem Ahead.lock {now i : Nat} {t : Task} {queue coming : List (Task × Nat)}
    {l r : List (Nat × Nat × Action)} {future : List Entry}
    (h : Ahead now queue (l ++ (now, i, .enter) :: r) coming future)
    (ht : ∀ u, (u, i) ∈ queue → u = t ∧ u.arrival ≤ now) :
    ∃ future', future = ⟨now, .locked, i⟩ :: future' ∧
      Ahead now queue (l ++ (now + t.hold, i, .leave) :: r) coming future' := by
  generalize hacting : l ++ (now, i, .enter) :: r = acting at h
  cases h with
  | free => simp at hacting
  | @enter u j line coming =>
    obtain ⟨rfl, hj, rfl⟩ := eq_of_append_cons_eq_singleton hacting
    obtain ⟨-, rfl, -⟩ := Prod.mk.inj hj
    obtain ⟨rfl, harrival⟩ := ht u List.mem_cons_self
    refine ⟨⟨now + u.hold, .released, i⟩ :: rounds (now + u.hold) (line ++ coming), ?_, .leave⟩
    rw [rounds, Nat.max_eq_left harrival]
  | leave =>
    obtain ⟨-, hj, -⟩ := eq_of_append_cons_eq_singleton hacting
    cases hj

/-- The first in line gives the lock to the next, who enters. -/
theorem Ahead.unlock {now i : Nat} {queue coming : List (Task × Nat)}
    {l r : List (Nat × Nat × Action)} {future : List Entry}
    (h : Ahead now queue (l ++ (now, i, .leave) :: r) coming future) :
    ∃ t line future', queue = (t, i) :: line ∧ future = ⟨now, .released, i⟩ :: future' ∧
      Ahead now line (l ++ (r ++ (line.head?.map (·.2)).toList.map (now, ·, .enter))) coming
        future' := by
  generalize hacting : l ++ (now, i, .leave) :: r = acting at h
  cases h with
  | free => simp at hacting
  | enter =>
    obtain ⟨-, hj, -⟩ := eq_of_append_cons_eq_singleton hacting
    cases hj
  | @leave t j time line coming =>
    obtain ⟨rfl, hj, rfl⟩ := eq_of_append_cons_eq_singleton hacting
    obtain ⟨rfl, rfl, -⟩ := Prod.mk.inj hj
    refine ⟨t, line, rounds now (line ++ coming), rfl, rfl, ?_⟩
    cases line with
    | nil => exact .free
    | cons p line => exact .enter

/-- Time moves on to a time when somebody is due. -/
theorem Ahead.advance {now time : Nat} {queue coming : List (Task × Nat)}
    {acting : List (Nat × Nat × Action)} {future : List Entry} (h : Ahead now queue acting coming future)
    (hnow : ∀ e ∈ acting, now < e.1) (hle : now ≤ time) (hcoming : ∀ p ∈ coming, time ≤ p.1.arrival) :
    Ahead time queue acting coming future := by
  cases h with
  | free =>
    rw [rounds_congr (fun p hp => Nat.le_trans hle (hcoming p hp)) hcoming]
    exact .free
  | enter => exact absurd (hnow _ List.mem_cons_self) (Nat.lt_irrefl _)
  | leave => exact .leave

/-! ## Turns of a listing -/

section

variable {i : Nat} {t : Task} {rest : List (Nat × Nat × Action)}

/-- Of those that are yet to ask for a lock, the one whose turn it is comes first. -/
theorem Timely.first_asks (h : Timely tasks s) (ht : tasks[i]? = some t)
    (hag : s.agenda = s.timers ++ (s.now, i, .arrive) :: rest) :
    t.arrival = s.now ∧ byArrival (s.agenda.filterMap (asking? tasks t.listing)) =
      (t, i) :: byArrival ((s.timers ++ rest).filterMap (asking? tasks t.listing)) := by
  have hnow : t.arrival = s.now := by
    obtain ⟨t', ht', -, harrive⟩ := h.known (s.now, i, .arrive) (by simp [hag])
    obtain rfl : t' = t := Option.some.inj (ht'.symm.trans ht)
    exact (harrive rfl).symm
  have hself : asking? tasks t.listing (s.now, i, .arrive) = some (t, i) := member?_self ht
  refine ⟨hnow, ?_⟩
  rw [hag, List.filterMap_append, List.filterMap_cons, hself, List.filterMap_append]
  refine byArrival_first (fun p hp => ?_) (fun p hp => ?_)
  · obtain ⟨e, he, hp⟩ := List.mem_filterMap.mp hp
    have := h.later e he
    have := h.arrival_of_asking (by simp [hag, he]) hp
    show t.arrival < p.1.arrival
    omega
  · obtain ⟨e, he, hp⟩ := List.mem_filterMap.mp hp
    have hmem : e ∈ s.agenda := by simp [hag, he]
    have := h.now_le e hmem
    have := h.arrival_of_asking hmem hp
    show t.arrival ≤ p.1.arrival
    omega

variable {queue coming : List (Task × Nat)} {acting : List (Nat × Nat × Action)}
  {future : List Entry}

/-- Who arrives joins the line, and enters at once if nobody is in it. -/
theorem Course.arrive (h : Course tasks t.listing s queue acting coming future)
    (htimely : Timely tasks s) (ht : tasks[i]? = some t)
    (hag : s.agenda = s.timers ++ (s.now, i, .arrive) :: rest)
    (hturns : Turns s s' (s.locks.lock i t.listing) (s.timers ++
      ((if (s.locks.lock i t.listing).holds i then [(s.now, i, .enter)] else []) ++ rest)) []) :
    ∃ acting' coming', Course tasks t.listing s' (queue ++ [(t, i)]) acting' coming' future := by
  obtain ⟨hnow, hfirst⟩ := htimely.first_asks ht hag
  have hself := member?_self ht
  have hi : s.locks.asked? i = none := htimely.unasked i (by simp [State.askers, hag, Action.asks])
  have hrest : acting = (s.timers ++ rest).filter (isActing tasks t.listing) := by
    rw [← h.turns, hag]
    simp [isActing, Action.asks]
  have hholds : (s.locks.lock i t.listing).holds i = true ↔ queue = [] := by
    rw [htimely.locks.holds_lock_iff hi, h.line, List.map_eq_nil_iff]
  have hacting : s'.agenda.filter (isActing tasks t.listing) =
      if queue = [] then [(s.now, i, .enter)] else acting := by
    rw [hturns.agenda]
    by_cases hqueue : queue = []
    · have hempty : acting = [] := by
        have hahead := h.ahead
        rw [hqueue] at hahead
        cases hahead
        rfl
      rw [if_pos (hholds.mpr hqueue), if_pos hqueue]
      rw [hempty, eq_comm, List.filter_append, List.append_eq_nil_iff] at hrest
      simp [hrest, isActing, Action.asks, hself]
    · rw [if_neg (mt hholds.mp hqueue), if_neg hqueue]
      exact hrest.symm
  refine ⟨_, byArrival ((s.timers ++ rest).filterMap (asking? tasks t.listing)),
    ⟨?_, ?_, hacting, ?_, ?_⟩⟩
  · rw [hturns.locks, Locks.line_lock, if_pos rfl, h.line, List.map_append]
    rfl
  · rw [hturns.now]
    exact List.forall_mem_append.mpr
      ⟨h.known, List.forall_mem_singleton.mpr ⟨hself, Nat.le_of_eq hnow⟩⟩
  · rw [hturns.agenda]
    split <;> simp [asking?, Action.asks]
  · have hahead := h.ahead
    rw [← h.askers, hfirst] at hahead
    rw [hturns.now]
    exact hahead.join

/-- Who enters is the first in line, and is to leave. -/
theorem Course.enter (h : Course tasks t.listing s queue acting coming future)
    (ht : tasks[i]? = some t) (hag : s.agenda = s.timers ++ (s.now, i, .enter) :: rest)
    (hturns : Turns s s' s.locks (s.timers ++ (s.now + t.hold, i, .leave) :: rest)
      [⟨s.now, .locked, i⟩]) :
    ∃ acting' future', future = ⟨s.now, .locked, i⟩ :: future' ∧
      Course tasks t.listing s' queue acting' coming future' := by
  have hself := member?_self ht
  have hturn : ∀ time (a : Action), a.asks = false →
      isActing tasks t.listing (time, i, a) = true := fun time a ha => by
    simp [isActing, ha, hself]
  have hacting := h.turns
  rw [hag, List.filter_append, List.filter_cons_of_pos (hturn _ _ rfl)] at hacting
  have hahead := h.ahead
  rw [← hacting] at hahead
  have hknown : ∀ u, (u, i) ∈ queue → u = t ∧ u.arrival ≤ s.now := fun u hu => by
    obtain ⟨hmember, harrival⟩ := h.known (u, i) hu
    exact ⟨congrArg Prod.fst (Option.some.inj (hmember.symm.trans hself)), harrival⟩
  obtain ⟨future', rfl, hahead'⟩ := hahead.lock hknown
  refine ⟨_, future', rfl, ⟨?_, hturns.now ▸ h.known, ?_, ?_, by rw [hturns.now]; exact hahead'⟩⟩
  · rw [hturns.locks, h.line]
  · rw [hturns.agenda, List.filter_append, List.filter_cons_of_pos (hturn _ _ rfl)]
  · rw [← h.askers, hturns.agenda, hag]
    simp [asking?, Action.asks]

/-- Who leaves is the first in line, and the next one enters. -/
theorem Course.leave (h : Course tasks t.listing s queue acting coming future)
    {line : List Nat} (hown : s.locks.line t.listing = i :: line) (hnot : i ∉ line)
    (hnext : Timetable.next? s.locks i = line.head?) (ht : tasks[i]? = some t)
    (hag : s.agenda = s.timers ++ (s.now, i, .leave) :: rest)
    (hturns : Turns s s' (s.locks.release (· == i))
      (s.timers ++ (rest ++ (Timetable.next? s.locks i).toList.map (s.now, ·, .enter)))
      [⟨s.now, .released, i⟩]) :
    ∃ queue' acting' future', future = ⟨s.now, .released, i⟩ :: future' ∧
      Course tasks t.listing s' queue' acting' coming future' := by
  have hself := member?_self ht
  have hacting := h.turns
  rw [hag, List.filter_append,
    List.filter_cons_of_pos (by simp [isActing, Action.asks, hself])] at hacting
  have hahead := h.ahead
  rw [← hacting] at hahead
  obtain ⟨u, queue', future', rfl, rfl, hahead'⟩ := hahead.unlock
  have hline : line = queue'.map (·.2) := (List.cons.inj (hown.symm.trans h.line)).2
  rw [hline, List.head?_map] at hnext
  have hturn : ∀ j ∈ Timetable.next? s.locks i,
      isActing tasks t.listing (s.now, j, .enter) = true := by
    intro j hj
    rw [hnext] at hj
    obtain ⟨p, hp, rfl⟩ := Option.map_eq_some_iff.mp hj
    have := (h.known p (List.mem_cons_of_mem _ (List.mem_of_head? hp))).1
    simp [isActing, Action.asks, this]
  refine ⟨queue', _, future', rfl, ⟨?_, ?_, ?_, ?_, by rw [hturns.now]; exact hahead'⟩⟩
  · rw [hturns.locks, Locks.line_release, hown, List.filter_cons_of_neg (by simp), ← hline]
    exact List.filter_eq_self.mpr fun j hj => decide_eq_true fun he => hnot (he ▸ hj)
  · rw [hturns.now]
    exact fun p hp => h.known p (List.mem_cons_of_mem _ hp)
  · rw [hturns.agenda, List.filter_append, List.filter_append, ← hnext]
    cases hn : Timetable.next? s.locks i with
    | none => rfl
    | some j => simp [hturn j hn]
  · rw [← h.askers, hturns.agenda, hag]
    cases Timetable.next? s.locks i <;> simp [asking?, Action.asks]

end

/-! ## Every listing stays on course -/

/-- What happens for other listings makes no difference. -/
theorem OnCourse.congr (h : OnCourse tasks listing s) (hnow : s'.now = s.now)
    (hline : s'.locks.line listing = s.locks.line listing)
    (hacting : s'.agenda.filter (isActing tasks listing) =
      s.agenda.filter (isActing tasks listing))
    (hasking : s'.agenda.filterMap (asking? tasks listing) =
      s.agenda.filterMap (asking? tasks listing))
    (hlog : s'.log.filter (concerns tasks listing) = s.log.filter (concerns tasks listing)) :
    OnCourse tasks listing s' := by
  obtain ⟨queue, acting, coming, future, hcourse, htotal⟩ := h
  refine ⟨queue, acting, coming, future, ⟨?_, ?_, ?_, ?_, ?_⟩, hlog ▸ htotal⟩
  · rw [hline, hcourse.line]
  · rw [hnow]
    exact hcourse.known
  · rw [hacting, hcourse.turns]
  · rw [hasking, hcourse.askers]
  · rw [hnow]
    exact hcourse.ahead

section

variable {i : Nat} {t : Task} {rest : List (Nat × Nat × Action)}

theorem OnCourse.begin (h : OnCourse tasks listing s)
    (hag : s.agenda = s.timers ++ (s.now, i, .begin) :: rest)
    (hturns : Turns s s' s.locks (s.timers ++ (s.now + t.arrival, i, .arrive) :: rest) []) :
    OnCourse tasks listing s' := by
  refine h.congr hturns.now (hturns.locks ▸ rfl) ?_ ?_ ?_
  · simp [hturns.agenda, hag, isActing, Action.asks]
  · simp [hturns.agenda, hag, List.filterMap_cons, asking?, Action.asks]
  · simp [hturns.log]

theorem OnCourse.arrive (h : OnCourse tasks listing s) (htimely : Timely tasks s)
    (ht : tasks[i]? = some t) (hag : s.agenda = s.timers ++ (s.now, i, .arrive) :: rest)
    (hturns : Turns s s' (s.locks.lock i t.listing) (s.timers ++
      ((if (s.locks.lock i t.listing).holds i then [(s.now, i, .enter)] else []) ++ rest)) []) :
    OnCourse tasks listing s' := by
  have hlog : s'.log = s.log := by simp [hturns.log]
  by_cases hL : t.listing = listing
  · subst hL
    obtain ⟨queue, acting, coming, future, hcourse, htotal⟩ := h
    obtain ⟨acting', coming', hcourse'⟩ := hcourse.arrive htimely ht hag hturns
    exact ⟨_, acting', coming', future, hcourse', hlog ▸ htotal⟩
  · have hnone := member?_of_ne ht hL
    refine h.congr hturns.now ?_ ?_ ?_ (hlog ▸ rfl)
    · rw [hturns.locks, Locks.line_lock, if_neg hL]
    · rw [hturns.agenda, hag]
      split <;> simp [isActing, hnone]
    · rw [hturns.agenda, hag]
      split <;> simp [asking?, hnone, Action.asks]

theorem OnCourse.enter (h : OnCourse tasks listing s) (ht : tasks[i]? = some t)
    (hag : s.agenda = s.timers ++ (s.now, i, .enter) :: rest)
    (hturns : Turns s s' s.locks (s.timers ++ (s.now + t.hold, i, .leave) :: rest)
      [⟨s.now, .locked, i⟩]) : OnCourse tasks listing s' := by
  by_cases hL : t.listing = listing
  · subst hL
    obtain ⟨queue, acting, coming, future, hcourse, htotal⟩ := h
    obtain ⟨acting', future', rfl, hcourse'⟩ := hcourse.enter ht hag hturns
    refine ⟨queue, acting', coming, future', hcourse', ?_⟩
    rw [hturns.log, List.filter_append, ← htotal, List.append_assoc]
    simp [concerns, member?_self ht]
  · have hnone := member?_of_ne ht hL
    refine h.congr hturns.now (hturns.locks ▸ rfl) ?_ ?_ ?_
    · simp [hturns.agenda, hag, isActing, hnone]
    · simp [hturns.agenda, hag, asking?, Action.asks]
    · simp [hturns.log, concerns, hnone]

theorem OnCourse.leave (h : OnCourse tasks listing s) (hs : OnCourse tasks t.listing s)
    (htimely : Timely tasks s) (ht : tasks[i]? = some t)
    (hag : s.agenda = s.timers ++ (s.now, i, .leave) :: rest)
    (hturns : Turns s s' (s.locks.release (· == i))
      (s.timers ++ (rest ++ (Timetable.next? s.locks i).toList.map (s.now, ·, .enter)))
      [⟨s.now, .released, i⟩]) : OnCourse tasks listing s' := by
  obtain ⟨line, hown, hnot, hnext⟩ := hs.next? htimely.locks ht (by simp [hag])
  by_cases hL : t.listing = listing
  · subst hL
    obtain ⟨queue, acting, coming, future, hcourse, htotal⟩ := h
    obtain ⟨queue', acting', future', rfl, hcourse'⟩ :=
      hcourse.leave hown hnot hnext ht hag hturns
    refine ⟨queue', acting', coming, future', hcourse', ?_⟩
    rw [hturns.log, List.filter_append, ← htotal, List.append_assoc]
    simp [concerns, member?_self ht]
  · have hnone := member?_of_ne ht hL
    -- the next one is in the line of the other listing
    have hnext' : ∀ j ∈ Timetable.next? s.locks i, Timetable.member? tasks listing j = none := by
      intro j hj
      rw [hnext] at hj
      obtain ⟨u, hu, -⟩ := hs.member? (hown ▸ List.mem_cons_of_mem i (List.mem_of_head? hj))
      obtain ⟨hu, hul, -⟩ := member?_eq_some.mp hu
      exact member?_of_ne hu (fun he => hL (hul.symm.trans he))
    have hi : i ∉ s.locks.line listing := by
      intro hi
      have hi := htimely.locks.mem_line.mp hi
      have hi' : s.locks.asked? i = some t.listing := htimely.locks.mem_line.mp (by simp [hown])
      exact hL (Option.some.inj (hi'.symm.trans hi))
    refine h.congr hturns.now ?_ ?_ ?_ ?_
    · rw [hturns.locks, Locks.line_release]
      exact List.filter_eq_self.mpr fun j hj => decide_eq_true fun he => hi (he ▸ hj)
    · rw [hturns.agenda, hag]
      cases hn : Timetable.next? s.locks i with
      | none => simp [isActing, hnone]
      | some j => simp [isActing, hnone, hnext' j hn]
    · rw [hturns.agenda, hag]
      cases Timetable.next? s.locks i <;> simp [asking?, Action.asks]
    · simp [hturns.log, concerns, hnone]

end

theorem OnCourse.advance {time : Nat} (h : OnCourse tasks listing s) (htimely : Timely tasks s)
    (hag : s.agenda = s.timers) (htime : time ∈ s.timers.map (·.1))
    (hle : ∀ e ∈ s.timers, time ≤ e.1) (hnow : s'.now = time) (hlocks : s'.locks = s.locks)
    (hlog : s'.log = s.log)
    (hag' : s'.agenda = s.timers.filter (·.1 != time) ++ s.timers.filter (·.1 == time)) :
    OnCourse tasks listing s' := by
  obtain ⟨queue, acting, coming, future, hcourse, htotal⟩ := h
  have hlater : s.now < time := by
    obtain ⟨e, he, rfl⟩ := List.mem_map.mp htime
    exact htimely.later e he
  have hasking : byArrival (s'.agenda.filterMap (asking? tasks listing)) = coming := by
    rw [hag', byArrival_partition, ← hag, hcourse.askers]
    intro e he p hp
    have := htimely.later e he
    have := htimely.arrival_of_asking (hag ▸ he) hp
    omega
  have hacting : s'.agenda.filter (isActing tasks listing) = acting := by
    have hperm : (s'.agenda.filter (isActing tasks listing)).Perm acting := by
      rw [← hcourse.turns, hag', hag]
      exact (List.perm_append_comm.trans (List.filter_append_perm _ _)).filter _
    cases hcourse.ahead with
    | free => exact List.perm_nil.mp hperm
    | enter | leave => exact List.perm_singleton.mp hperm
  refine ⟨queue, acting, coming, future, ⟨?_, ?_, hacting, hasking, ?_⟩, hlog ▸ htotal⟩
  · rw [hlocks, hcourse.line]
  · intro p hp
    obtain ⟨hmember, harrival⟩ := hcourse.known p hp
    exact ⟨hmember, by omega⟩
  · rw [hnow]
    refine hcourse.ahead.advance (fun e he => ?_) (Nat.le_of_lt hlater) fun p hp => ?_
    · rw [← hcourse.turns, hag] at he
      exact htimely.later e (List.mem_filter.mp he).1
    · rw [← hcourse.askers, mem_byArrival] at hp
      obtain ⟨e, he, hp⟩ := List.mem_filterMap.mp hp
      have := hle e (hag ▸ he)
      have := htimely.arrival_of_asking he hp
      omega

theorem OnCourse.tick (hs : ∀ listing, OnCourse tasks listing s) (htimely : Timely tasks s)
    (htick : Tick tasks s s') : OnCourse tasks listing s' := by
  have h := hs listing
  cases htick with
  | begin ht hag hturns => exact h.begin hag hturns
  | arrive ht hag hturns => exact h.arrive htimely ht hag hturns
  | enter ht hag hturns => exact h.enter ht hag hturns
  | leave ht hag hturns => exact h.leave (hs _) htimely ht hag hturns
  | advance hag htime hle hnow hlocks hlog hag' hlater =>
    exact h.advance htimely hag htime hle hnow hlocks hlog hag'

/-! ## The whole run -/

/-- What the turn costs, and those that come after it before the lock is asked for or left. -/
def toDo (now : Nat) (e : Nat × Nat × Action) : Nat :=
  (match e.2.2 with
    | .begin => 3
    | .arrive => 1
    | .enter | .leave => 0) + if now < e.1 then 1 else 0

def State.left (s : State) : Nat := (s.agenda.map (toDo s.now)).sum

/-- How often something was written of the kind. -/
def State.count (s : State) (m : Move) : Nat := s.log.countP (·.move == m)

/-- Every step lowers what is left, or writes of a lock. -/
theorem Tick.left_lt (h : Tick tasks s s') (hlater : ∀ e ∈ s.timers, s.now < e.1) :
    s'.left + 2 * s.count .locked + s.count .released <
      s.left + 2 * s'.count .locked + s'.count .released := by
  cases h with
  | @begin i t rest ht hag hturns =>
    have hturn : toDo s.now (s.now + t.arrival, i, .arrive) < toDo s.now (s.now, i, .begin) := by
      simp only [toDo]
      split <;> omega
    have hleft : s'.left < s.left := by
      simpa [State.left, hag, hturns.agenda, hturns.now] using hturn
    simpa [State.count, hturns.log] using hleft
  | @arrive i t rest ht hag hturns =>
    have hleft : s'.left < s.left := by
      simp only [State.left, hag, hturns.agenda, hturns.now]
      split <;> simp [toDo]
    simpa [State.count, hturns.log] using hleft
  | @enter i t rest ht hag hturns =>
    have hturn : toDo s.now (s.now + t.hold, i, .leave) ≤ toDo s.now (s.now, i, .enter) + 1 := by
      simp only [toDo]
      split <;> omega
    have hleft : s'.left ≤ s.left + 1 := by
      simp only [State.left, hag, hturns.agenda, hturns.now, List.map_append, List.map_cons,
        List.sum_append, List.sum_cons]
      omega
    have hrel : s'.count .released = s.count .released := by
      simp [State.count, hturns.log]
    have hlock : s'.count .locked = s.count .locked + 1 := by
      simp [State.count, hturns.log]
    omega
  | @leave i t rest ht hag hturns =>
    have hleft : s'.left = s.left := by
      simp only [State.left, hag, hturns.agenda, hturns.now]
      cases next? s.locks i <;> simp [toDo]
    have hrel : s'.count .released = s.count .released + 1 := by
      simp [State.count, hturns.log]
    have hlock : s'.count .locked = s.count .locked := by
      simp [State.count, hturns.log]
    omega
  | @advance time hag htime hle hnow hlocks hlog hag' hlater' =>
    have hperm : s'.agenda.Perm s.timers := by
      rw [hag']
      exact List.perm_append_comm.trans (List.filter_append_perm _ _)
    have hleft : s'.left < s.left := by
      rw [State.left, State.left, hnow, hag, (hperm.map _).sum_nat]
      obtain ⟨e, he, rfl⟩ := List.mem_map.mp htime
      refine List.sum_lt_sum _ _ (fun e' he' => ?_) ⟨e, he, ?_⟩
      · have := hlater e' he'
        have := hle e' he'
        simp only [toDo]
        split <;> split <;> omega
      · have := hlater e he
        simp [toDo, this]
    simpa [State.count, hlog] using hleft

theorem Tick.written (h : Tick tasks s s') (hs : ∀ e ∈ s.log, e.task < tasks.length) :
    ∀ e ∈ s'.log, e.task < tasks.length := by
  have hnew : ∀ {i : Nat} {t : Task} (m : Move), tasks[i]? = some t →
      ∀ e ∈ s.log ++ [⟨s.now, m, i⟩], e.task < tasks.length := fun m ht =>
    List.forall_mem_append.mpr
      ⟨hs, List.forall_mem_singleton.mpr (List.getElem?_eq_some_iff.mp ht).1⟩
  cases h with
  | begin _ _ hturns | arrive _ _ hturns =>
    rw [hturns.log, List.append_nil]
    exact hs
  | enter ht _ hturns | leave ht _ hturns =>
    rw [hturns.log]
    exact hnew _ ht
  | advance _ _ _ _ _ hlog => exact hlog ▸ hs

inductive Reached (tasks : List Task) : Nat → State → Prop
  | start : Reached tasks 0 (initial tasks)
  | step {n : Nat} {s s' : State} : Reached tasks n s → s.step? tasks = some s' →
      Reached tasks (n + 1) s'

theorem agenda_initial (tasks : List Task) :
    (initial tasks).agenda = (List.range tasks.length).map fun i => (0, i, .begin) := by
  simp [initial, State.agenda]

theorem timely_initial (tasks : List Task) : Timely tasks (initial tasks) where
  locks := Locks.consistent_empty
  later := nofun
  known := by
    intro e he
    rw [agenda_initial] at he
    obtain ⟨i, hi, rfl⟩ := List.mem_map.mp he
    have hi := List.mem_range.mp hi
    exact ⟨tasks[i], List.getElem?_eq_getElem hi, fun _ => rfl, nofun⟩
  once := by
    have haskers : (initial tasks).askers = List.range tasks.length := by
      simp [State.askers, agenda_initial, List.filter_map, Function.comp_def, Action.asks]
    rw [haskers]
    exact List.nodup_range
  unasked := fun _ _ => rfl

theorem filterMap_member? (tasks : List Task) (listing : Int) :
    (List.range tasks.length).filterMap (member? tasks listing) =
      tasks.zipIdx.filter (·.1.listing == listing) := by
  have hrange : List.range tasks.length = tasks.zipIdx.map (·.2) := by
    rw [List.zipIdx_map_snd, List.range_eq_range']
  rw [hrange, List.filterMap_map, ← List.filterMap_eq_filter]
  refine List.filterMap_congr fun p hp => ?_
  have ht : tasks[p.2]? = some p.1 := List.mem_zipIdx_iff_getElem?.mp hp
  by_cases hL : p.1.listing = listing
  · subst hL
    simp [member?_self ht, Option.guard]
  · simp [member?_of_ne ht hL, Option.guard, hL]

theorem onCourse_initial (tasks : List Task) (listing : Int) :
    OnCourse tasks listing (initial tasks) := by
  refine ⟨[], [], arrivals tasks listing, rounds 0 (arrivals tasks listing),
    ⟨rfl, nofun, ?_, ?_, .free⟩, rfl⟩
  · rw [agenda_initial]
    simp [List.filter_map, Function.comp_def, isActing, Action.asks]
  · rw [agenda_initial, List.filterMap_map]
    exact congrArg byArrival (filterMap_member? tasks listing)

theorem Reached.invariants {n : Nat} (h : Reached tasks n s) :
    Timely tasks s ∧ (∀ listing, OnCourse tasks listing s) ∧
      (∀ e ∈ s.log, e.task < tasks.length) ∧
      n + s.left ≤ 3 * tasks.length + 2 * s.count .locked + s.count .released := by
  induction h with
  | start =>
    refine ⟨timely_initial tasks, onCourse_initial tasks, nofun, ?_⟩
    have hleft : (initial tasks).left = 3 * tasks.length := by
      simp [State.left, agenda_initial, Function.comp_def, toDo, Nat.mul_comm]
    omega
  | @step n s s' _ hstep ih =>
    obtain ⟨htimely, hcourse, hwritten, hleft⟩ := ih
    have hknown : ∀ e ∈ s.due, ∃ t, tasks[e.1]? = some t := fun e he => by
      obtain ⟨t, ht, -⟩ := htimely.known (s.now, e) (by simp [State.agenda, he])
      exact ⟨t, ht⟩
    have htick := tick_of_step? hknown hstep
    have := htick.left_lt htimely.later
    exact ⟨htimely.tick hcourse htick, fun _ => OnCourse.tick hcourse htimely htick,
      htick.written hwritten, by omega⟩

theorem countP_rounds (free : Nat) (ts : List (Task × Nat)) (m : Move) (i : Nat) :
    (rounds free ts).countP (fun e => e.task == i && e.move == m) = (ts.map (·.2)).count i := by
  induction ts generalizing free with
  | nil => rfl
  | cons p ts ih =>
    obtain ⟨t, j⟩ := p
    simp only [rounds, List.countP_cons, ih, List.map_cons, List.count_cons]
    cases m <;> simp

/-- No task locks or unlocks twice. -/
theorem OnCourse.countP_le {i : Nat} {t : Task} (h : OnCourse tasks t.listing s)
    (ht : tasks[i]? = some t) (m : Move) :
    s.log.countP (fun e => e.task == i && e.move == m) ≤ 1 := by
  obtain ⟨_, _, _, future, -, htotal⟩ := h
  have hconcerns : s.log.countP (fun e => e.task == i && e.move == m) =
      (s.log.filter (concerns tasks t.listing)).countP (fun e => e.task == i && e.move == m) := by
    rw [List.countP_filter]
    refine List.countP_congr fun e _ => ?_
    simp only [Bool.and_eq_true, beq_iff_eq]
    refine (and_iff_left_of_imp ?_).symm
    rintro ⟨rfl, -⟩
    simp [concerns, member?_self ht]
  have hnodup : ((arrivals tasks t.listing).map (·.2)).Nodup := by
    have hperm := (byArrival_perm (tasks.zipIdx.filter (·.1.listing == t.listing))).map (·.2)
    refine hperm.nodup_iff.mpr ((List.filter_sublist.map _).nodup ?_)
    rw [List.zipIdx_map_snd]
    exact List.nodup_range'
  calc s.log.countP (fun e => e.task == i && e.move == m)
      ≤ (rounds 0 (arrivals tasks t.listing)).countP (fun e => e.task == i && e.move == m) := by
        rw [hconcerns, ← htotal, List.countP_append]
        exact Nat.le_add_right _ _
    _ = ((arrivals tasks t.listing).map (·.2)).count i := countP_rounds _ _ _ _
    _ ≤ 1 := List.nodup_iff_count_le_one.mp hnodup i

theorem Reached.count_le {n : Nat} (h : Reached tasks n s) (m : Move) :
    s.count m ≤ tasks.length := by
  obtain ⟨-, hcourse, hwritten, -⟩ := h.invariants
  have hnodup : ((s.log.filter (·.move == m)).map (·.task)).Nodup := by
    refine List.nodup_iff_count_le_one.mpr fun i => ?_
    rw [List.count_eq_countP, List.countP_map, List.countP_filter]
    cases ht : tasks[i]? with
    | some t => exact (hcourse t.listing).countP_le ht m
    | none =>
      refine Nat.le_of_eq (List.countP_eq_zero.mpr fun e he => ?_) |>.trans (Nat.zero_le 1)
      have hne : e.task ≠ i := by
        have := hwritten e he
        have := List.getElem?_eq_none_iff.mp ht
        omega
      simp [hne]
  have hsub : (s.log.filter (·.move == m)).map (·.task) ⊆ List.range tasks.length := by
    intro i hi
    obtain ⟨e, he, rfl⟩ := List.mem_map.mp hi
    exact List.mem_range.mpr (hwritten e (List.mem_filter.mp he).1)
  have hlength := (List.subperm_of_subset hnodup hsub).length_le
  rwa [List.length_map, List.length_range, ← List.countP_eq_length_filter] at hlength

theorem Reached.le {n : Nat} (h : Reached tasks n s) : n ≤ 6 * tasks.length := by
  obtain ⟨-, -, -, hleft⟩ := h.invariants
  have := h.count_le .locked
  have := h.count_le .released
  omega

/-- A run takes all its steps, unless nothing is left to be done. -/
theorem Reached.run {n : Nat} (h : Reached tasks n s) (k : Nat) :
    ∃ m, Reached tasks m (s.run tasks k) ∧ (m = n + k ∨ (s.run tasks k).step? tasks = none) := by
  induction k generalizing n s with
  | zero => exact ⟨n, h, .inl rfl⟩
  | succ k ih =>
    rw [State.run]
    cases hstep : s.step? tasks with
    | none => exact ⟨n, h, .inr hstep⟩
    | some s' =>
      obtain ⟨m, hm, hend⟩ := ih (h.step hstep)
      exact ⟨m, hm, hend.imp_left (·.trans (by omega))⟩

theorem agenda_of_step?_eq_none (h : s.step? tasks = none) : s.agenda = [] := by
  unfold State.step? at h
  split at h
  · next hdue =>
    have htimers : s.timers.map (·.1) = [] := List.min?_eq_none_iff.mp (Option.map_eq_none_iff.mp h)
    simp [State.agenda, hdue, List.map_eq_nil_iff.mp htimers]
  · cases h

/-- What happens to the lock of a listing is that its tasks have it one after another in the order in
which they ask. -/
theorem log_filter (tasks : List Task) (listing : Int) :
    (log tasks).filter (concerns tasks listing) = rounds 0 (arrivals tasks listing) := by
  obtain ⟨n, hreached, hend⟩ := Reached.start.run (6 * tasks.length)
  have hstep : ((initial tasks).run tasks (6 * tasks.length)).step? tasks = none := by
    rcases hend with rfl | hend
    · by_contra hne
      obtain ⟨s', hs'⟩ := Option.ne_none_iff_exists'.mp hne
      have := (hreached.step hs').le
      omega
    · exact hend
  have hagenda := agenda_of_step?_eq_none hstep
  obtain ⟨queue, acting, coming, future, hcourse, htotal⟩ := hreached.invariants.2.1 listing
  have hacting : acting = [] := by rw [← hcourse.turns, hagenda]; rfl
  have hcoming : coming = [] := by rw [← hcourse.askers, hagenda]; rfl
  have hahead := hcourse.ahead
  rw [hacting, hcoming] at hahead
  cases hahead
  rwa [rounds, List.append_nil] at htotal

end Lodging.Sync.Timetable
