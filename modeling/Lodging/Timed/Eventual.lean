/-!
# Values that take time

A value that is there after some milliseconds, or never. Waiting for several values at once takes as
long as the slowest; a race against a limit takes at most as long as the limit, and a value that comes
exactly at the limit still counts.
-/

namespace Lodging.Timed

/-- What comes after some milliseconds, or never. -/
inductive Eventual (α : Type) where
  | after (ms : Nat) (value : α)
  | never
  deriving Repr, DecidableEq

variable {α β : Type}

namespace Eventual

def map (f : α → β) : Eventual α → Eventual β
  | after ms a => after ms (f a)
  | never => never

def both : Eventual α → Eventual β → Eventual (α × β)
  | after s a, after t b => after (max s t) (a, b)
  | _, _ => never

/-- All values in their order, when the last of them is there. -/
def all : List (Eventual α) → Eventual (List α)
  | [] => after 0 []
  | x :: xs => (x.both (all xs)).map fun (a, as) => a :: as

/-- The value, or `fallback` once `limit` has passed. -/
def race (x : Eventual α) (fallback : α) (limit : Nat) : Eventual α :=
  match x with
  | after ms a => if ms ≤ limit then after ms a else after limit fallback
  | never => after limit fallback

/-- Like `race`; a failure is replaced by `fallback` as well. -/
def recover {ε : Type} (x : Eventual (Except ε α)) (fallback : α) (limit : Nat) : Eventual α :=
  ((x.map some).race none limit).map fun
    | some (.ok a) => a
    | _ => fallback

end Eventual

end Lodging.Timed
