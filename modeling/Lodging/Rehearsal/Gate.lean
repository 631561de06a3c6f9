/-!
# Gates

A gate lets in those who ask, in the order in which they ask. Some go in alone; those who do not can be
inside together, but never go in before somebody who asked earlier.
-/

namespace Lodging.Rehearsal

/-- Those who asked and have not left, oldest first, and whether they go in alone. -/
structure Gate (α : Type) where
  visitors : List (α × Bool)

namespace Gate

variable {α : Type}

def empty : Gate α := ⟨[]⟩

def inside (g : Gate α) : List α :=
  match g.visitors with
  | (a, true) :: _ => [a]
  | vs => (vs.takeWhile (!·.2)).map (·.1)

def ask (g : Gate α) (a : α) (alone : Bool) : Gate α := ⟨g.visitors ++ [(a, alone)]⟩

/-- Without those who have the property, whether they are inside or not. -/
def leave (g : Gate α) (p : α → Bool) : Gate α := ⟨g.visitors.filter fun v => !p v.1⟩

/-- Those who get in because others leave. -/
def admitted [BEq α] (g : Gate α) (p : α → Bool) : List α :=
  (g.leave p).inside.filter (!g.inside.contains ·)

end Gate

end Lodging.Rehearsal
