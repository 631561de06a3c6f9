import Lodging.Day.Text
import Lodging.Json.Fields

/-!
# Periods

A period reaches from its first day up to a day that no longer belongs to it. The night of a day is
the one that begins on it, so a period that is spent at a place covers the nights of all its days.
-/

namespace Lodging

structure Period where
  start : Day
  /-- The first day after the period. -/
  stop : Day
  deriving DecidableEq

namespace Period

def overlaps (p q : Period) : Bool := p.start < q.stop && q.start < p.stop

def Covers (p : Period) (n : Int) : Prop := p.start.number ≤ n ∧ n < p.stop.number

instance (p : Period) (n : Int) : Decidable (p.Covers n) := by unfold Covers; infer_instance

/-- Two periods that are not empty overlap exactly if they share a day. -/
theorem overlaps_iff_exists_covers {p q : Period} (hp : p.start < p.stop) (hq : q.start < q.stop) :
    p.overlaps q = true ↔ ∃ n, p.Covers n ∧ q.Covers n := by
  have hp' : p.start.number < p.stop.number := hp
  have hq' : q.start.number < q.stop.number := hq
  simp only [overlaps, Covers, Bool.and_eq_true, decide_eq_true_eq]
  constructor
  · intro ⟨h₁, h₂⟩
    have h₁' : p.start.number < q.stop.number := h₁
    have h₂' : q.start.number < p.stop.number := h₂
    by_cases h : p.start.number ≤ q.start.number
    · exact ⟨q.start.number, by omega, by omega⟩
    · exact ⟨p.start.number, by omega, by omega⟩
  · intro ⟨n, h₁, h₂⟩
    exact ⟨show p.start.number < q.stop.number by omega,
      show q.start.number < p.stop.number by omega⟩

end Period

/-! ## In documents -/

def Day.toJson (d : Day) : Json := .str d.text

def Day.ofJson? : Json → Option Day
  | .str s => (Day.read s.toList).toOption
  | _ => none

def Period.toJson (p : Period) : Json := .obj [("start", p.start.toJson), ("end", p.stop.toJson)]

def Period.ofJson? (j : Json) : Option Period := do
  let f ← j.fields? ["start", "end"]
  return ⟨← f.required "start" Day.ofJson?, ← f.required "end" Day.ofJson?⟩

end Lodging
