/-!
# JSON documents

A document as a tree. Members of an object keep their order and may repeat. A number is whole or a
float, as it is written. What is well formed and yet has no value, such as a number too large for a
float or half of a surrogate pair, stands in the tree as `unusable`: a reader that has no use for it
can skip it.
-/

namespace Lodging

inductive Json where
  | null
  | bool (b : Bool)
  | whole (i : Int)
  | float (x : Float)
  | str (s : String)
  | arr (items : List Json)
  | obj (members : List (String × Json))
  | unusable
  deriving Inhabited

namespace Json

/-- A float; there is no way to write one that is not finite. -/
def ofFloat (x : Float) : Json := if x.isFinite then .float x else .null

def ofOption {α : Type} (f : α → Json) : Option α → Json
  | some a => f a
  | none => .null

def ofList {α : Type} (f : α → Json) (xs : List α) : Json := .arr (xs.map f)

def ofNat (n : Nat) : Json := .whole n

/-- The value of a member; of a repeated one the last. -/
def member? (key : String) : Json → Option Json
  | .obj members => (members.reverse.find? (·.1 == key)).map (·.2)
  | _ => none

end Json

end Lodging
