import Lodging.Timed.Eventual
import Mathlib.Data.List.MinMax

/-! # Values waited for under a limit

A wait with a limit ends at a time of its own and with a value of its own (`recover_eq`), and all such
waits together end with the longest (`all_map_after`). Looked at from moment to moment the same comes
out, as long as the looking starts in time (`poll?_eq_none`, `poll?_eq_some`): the answer is looked at
before the limit, so an answer that comes exactly at the limit counts. -/

namespace Lodging.Timed.Eventual

variable {α β ε : Type}

def wait (limit : Nat) : Eventual α → Nat
  | after ms _ => min ms limit
  | never => limit

/-- The value, if it comes within the limit and is not a failure. -/
def success? (limit : Nat) : Eventual (Except ε α) → Option α
  | after ms (.ok a) => if ms ≤ limit then some a else none
  | _ => none

theorem recover_eq (x : Eventual (Except ε α)) (fallback : α) (limit : Nat) :
    x.recover fallback limit = after (x.wait limit) ((x.success? limit).getD fallback) := by
  cases x with
  | never => rfl
  | after ms a =>
    by_cases h : ms ≤ limit
    · cases a <;> simp [recover, map, race, wait, success?, h]
    · cases a <;> simp [recover, map, race, wait, success?, h, Nat.le_of_not_le h]

/-- An answer exactly at the limit is still one. -/
example : (after 5 (.ok 1) : Eventual (Except Unit Nat)).recover 0 5 = after 5 1 := by decide

theorem all_map_after (f : β → Nat) (g : β → α) (bs : List β) :
    all (bs.map fun b => after (f b) (g b)) = after ((bs.map f).foldr max 0) (bs.map g) := by
  induction bs with
  | nil => rfl
  | cons b bs ih => simp [all, both, map, ih]

/-! ## From moment to moment -/

/-- What a look at a wait shows at a moment, if it is over. -/
def poll? (now limit : Nat) (fallback : α) : Eventual (Except ε α) → Option α
  | after ms a =>
    if ms ≤ now then some (a.toOption.getD fallback)
    else if limit ≤ now then some fallback else none
  | never => if limit ≤ now then some fallback else none

variable {x : Eventual (Except ε α)} {now limit : Nat} {fallback a : α}

theorem poll?_eq_none : x.poll? now limit fallback = none ↔ now < x.wait limit := by
  cases x with
  | never => simp [poll?, wait]
  | after ms b =>
    simp only [poll?, wait]
    split_ifs with hms hlimit
    · exact iff_of_false (by simp) (by omega)
    · exact iff_of_false (by simp) (by omega)
    · exact iff_of_true rfl (by omega)

/-- The first look that shows something shows it at the end of the wait. -/
theorem poll?_eq_some (hnow : now ≤ x.wait limit) (h : x.poll? now limit fallback = some a) :
    x.wait limit = now ∧ a = (x.success? limit).getD fallback := by
  have hwait : x.wait limit = now := by
    have hend : ¬ now < x.wait limit := fun hlt => by simp [poll?_eq_none.mpr hlt] at h
    omega
  refine ⟨hwait, ?_⟩
  cases x with
  | never =>
    simp only [wait] at hwait
    simpa [poll?, success?, hwait] using h.symm
  | after ms b =>
    simp only [wait] at hwait
    by_cases hms : ms ≤ now
    · have hlimit : ms ≤ limit := by omega
      cases b <;> simpa [poll?, success?, hms, hlimit, Except.toOption] using h.symm
    · have hlimit : ¬ ms ≤ limit := by omega
      cases b <;>
        simpa [poll?, success?, hms, hlimit, show limit ≤ now by omega] using h.symm

end Lodging.Timed.Eventual
