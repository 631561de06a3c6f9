import Lodging.Sync.Timetable
import Mathlib.Data.List.Sort

/-! # Who gets a lock when

The tasks that want one lock get it in the order in which they ask, tasks that ask at the same time in
the order in which they are listed: each as soon as it asks and the one before it is done. -/

namespace Lodging.Sync.Timetable

/-- The tasks by their arrival; those that arrive at one time stay in their order. -/
def byArrival (ts : List (Task × Nat)) : List (Task × Nat) :=
  ts.insertionSort fun a b => a.1.arrival ≤ b.1.arrival

/-- What happens when tasks get a lock one after another that is free from some time on. -/
def rounds (free : Nat) : List (Task × Nat) → List Entry
  | [] => []
  | (t, id) :: ts =>
    let start := max free t.arrival
    ⟨start, .locked, id⟩ :: ⟨start + t.hold, .released, id⟩ :: rounds (start + t.hold) ts

/-- The tasks for a listing, each with its place in the list of tasks, in the order in which they ask
for the lock. -/
def arrivals (tasks : List Task) (listing : Int) : List (Task × Nat) :=
  byArrival (tasks.zipIdx.filter (·.1.listing == listing))

/-! ## Tasks in order -/

/-- A task takes its place before the first that does not arrive sooner. -/
def takePlace (a : Task × Nat) (ts : List (Task × Nat)) : List (Task × Nat) :=
  ts.orderedInsert (fun a b => a.1.arrival ≤ b.1.arrival) a

theorem byArrival_cons (a : Task × Nat) (ts : List (Task × Nat)) :
    byArrival (a :: ts) = takePlace a (byArrival ts) := rfl

theorem byArrival_perm (ts : List (Task × Nat)) : (byArrival ts).Perm ts :=
  List.perm_insertionSort _ ts

theorem mem_byArrival {a : Task × Nat} {ts : List (Task × Nat)} : a ∈ byArrival ts ↔ a ∈ ts :=
  (byArrival_perm ts).mem_iff

/-- Tasks that arrive at different times can take their places in any order. -/
theorem takePlace_comm {a b : Task × Nat} (h : a.1.arrival ≠ b.1.arrival) (ts : List (Task × Nat)) :
    takePlace a (takePlace b ts) = takePlace b (takePlace a ts) := by
  unfold takePlace
  induction ts with
  | nil => grind
  | cons c ts ih => grind

theorem takePlace_of_le {a : Task × Nat} {ts : List (Task × Nat)}
    (h : ∀ t ∈ ts, a.1.arrival ≤ t.1.arrival) : takePlace a ts = a :: ts := by
  cases ts with
  | nil => rfl
  | cons b ts => exact List.orderedInsert_cons_of_le _ _ (h b List.mem_cons_self)

theorem byArrival_append_cons {a : Task × Nat} {ts : List (Task × Nat)}
    (h : ∀ t ∈ ts, a.1.arrival ≠ t.1.arrival) (us : List (Task × Nat)) :
    byArrival (ts ++ a :: us) = takePlace a (byArrival (ts ++ us)) := by
  induction ts with
  | nil => rfl
  | cons t ts ih =>
    obtain ⟨ht, hts⟩ := List.forall_mem_cons.mp h
    rw [List.cons_append, List.cons_append, byArrival_cons, byArrival_cons, ih hts,
      takePlace_comm ht.symm]

/-- Who arrives first of all, of those at that time, is the first in order. -/
theorem byArrival_first {a : Task × Nat} {ts us : List (Task × Nat)}
    (hts : ∀ t ∈ ts, a.1.arrival < t.1.arrival) (hus : ∀ t ∈ us, a.1.arrival ≤ t.1.arrival) :
    byArrival (ts ++ a :: us) = a :: byArrival (ts ++ us) := by
  rw [byArrival_append_cons fun t ht => Nat.ne_of_lt (hts t ht)]
  refine takePlace_of_le fun t ht => ?_
  rcases List.mem_append.mp (mem_byArrival.mp ht) with ht | ht
  · exact Nat.le_of_lt (hts t ht)
  · exact hus t ht

/-- Those who arrive at a certain time can be taken out and listed last. -/
theorem byArrival_partition {α : Type} {f : Nat × α → Option (Task × Nat)} {l : List (Nat × α)}
    (h : ∀ e ∈ l, ∀ p, f e = some p → e.1 = p.1.arrival) (time : Nat) :
    byArrival ((l.filter (·.1 != time) ++ l.filter (·.1 == time)).filterMap f) =
      byArrival (l.filterMap f) := by
  induction l with
  | nil => rfl
  | cons e l ih =>
    obtain ⟨he, hl⟩ := List.forall_mem_cons.mp h
    have ih := ih hl
    cases hfe : f e with
    | none => by_cases htime : e.1 = time <;> simpa [htime, hfe] using ih
    | some p =>
      rw [List.filterMap_cons_some hfe, byArrival_cons, ← ih]
      by_cases htime : e.1 = time
      · have hearlier : ∀ q ∈ (l.filter (·.1 != time)).filterMap f, p.1.arrival ≠ q.1.arrival := by
          intro q hq
          obtain ⟨e', he', hq⟩ := List.mem_filterMap.mp hq
          obtain ⟨hmem, hne⟩ := List.mem_filter.mp he'
          rw [← he p hfe, ← hl e' hmem q hq, htime]
          exact Ne.symm (by simpa using hne)
        simpa [htime, hfe] using byArrival_append_cons hearlier _
      · simp [htime, hfe, byArrival_cons]

/-! ## Rounds -/

theorem rounds_congr {free free' : Nat} {ts : List (Task × Nat)}
    (h : ∀ t ∈ ts, free ≤ t.1.arrival) (h' : ∀ t ∈ ts, free' ≤ t.1.arrival) :
    rounds free ts = rounds free' ts := by
  cases ts with
  | nil => rfl
  | cons t ts =>
    have hstart : max free t.1.arrival = max free' t.1.arrival := by
      have := h t List.mem_cons_self
      have := h' t List.mem_cons_self
      omega
    simp only [rounds, hstart]

end Lodging.Sync.Timetable
