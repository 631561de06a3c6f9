import Lodging.Calendar.Document

/-! # Periods of a document

Whatever a document says, the periods that are read from it are not empty: an event that ends before
it starts takes up nothing, and one that ends on the day it starts takes up that day. -/

namespace Lodging.Calendar

theorem dayOnly?_eq_some {d : Day} {p : Period} (h : dayOnly? d = some p) :
    p.start = d ∧ p.stop.number = d.number + 1 := by
  obtain ⟨e, he, rfl⟩ := Option.map_eq_some_iff.mp h
  exact ⟨rfl, Day.next?_number he⟩

theorem dayOnly?_nonempty {d : Day} {p : Period} (h : dayOnly? d = some p) : p.start < p.stop := by
  obtain ⟨rfl, hnext⟩ := dayOnly?_eq_some h
  show p.start.number < p.stop.number
  omega

theorem Event.period?_nonempty {e : Event} {p : Period} (h : e.period? = some p) :
    p.start < p.stop := by
  unfold Event.period? at h
  split at h
  · cases h
  · split at h
    · cases h
    · exact dayOnly?_nonempty h
    · split at h
      · next hlt =>
        rw [← Option.some.inj h]
        exact hlt
      · split at h
        · exact dayOnly?_nonempty h
        · cases h

theorem periodsFrom_nonempty {open? : Option Event} {marks : List Mark} :
    ∀ p ∈ periodsFrom open? marks, p.start < p.stop := by
  induction marks generalizing open? with
  | nil => simp [periodsFrom]
  | cons m rest ih =>
    cases m with
    | closes =>
      unfold periodsFrom
      split
      · next p hp =>
        obtain ⟨e, -, he⟩ := Option.bind_eq_some_iff.mp hp
        exact List.forall_mem_cons.mpr ⟨e.period?_nonempty he, ih⟩
      · exact ih
    | opens => exact ih
    | starts v => exact ih
    | ends v => exact ih
    | cancels => exact ih
    | other => exact ih

theorem periods_of_readDocument {s : String} {ps : List Period} (h : readDocument s = .ok ps) :
    ps = periodsFrom none ((logicalLines s.toList).map markOf) := by
  dsimp only [readDocument] at h
  split at h
  · exact (Except.ok.inj h).symm
  · cases h

theorem readDocument_nonempty {s : String} {ps : List Period} (h : readDocument s = .ok ps) :
    ∀ p ∈ ps, p.start < p.stop := by
  rw [periods_of_readDocument h]
  exact periodsFrom_nonempty

end Lodging.Calendar
