import Lodging.Decimal.Whole
import Lodging.Json.Basic

/-!
# Reading records

A record is written as an object, or as an array of its fields in their order. In an object a field
may be missing and unknown members are skipped, but a field may not come twice. An array has no more
items than the record has fields; only a field with a default may be left off its end.
-/

namespace Lodging.Json

/-- The fields of one record. -/
inductive Fields where
  | named (members : List (String × Json))
  | listed (names : List String) (items : List Json)

/-- The fields of a record with these names, unless one comes twice or there are too many. -/
def fields? (names : List String) : Json → Option Fields
  | .obj members =>
    if names.all fun n => (members.filter (·.1 == n)).length ≤ 1 then some (.named members)
    else none
  | .arr items => if items.length ≤ names.length then some (.listed names items) else none
  | _ => none

def Fields.get? (f : Fields) (name : String) : Option Json :=
  match f with
  | .named members => members.lookup name
  | .listed names items => (names.zip items).lookup name

def Fields.required {α : Type} (f : Fields) (name : String) (read? : Json → Option α) : Option α :=
  (f.get? name).bind read?

def nullable {α : Type} (read? : Json → Option α) : Json → Option (Option α)
  | .null => some none
  | j => (read? j).map some

/-- A field that may be null, and in an object missing. -/
def Fields.optional {α : Type} (f : Fields) (name : String) (read? : Json → Option α) :
    Option (Option α) :=
  match f.get? name, f with
  | some j, _ => nullable read? j
  | none, .named _ => some none
  | none, .listed .. => none

def Fields.orElse {α : Type} (f : Fields) (name : String) (default : α)
    (read? : Json → Option α) : Option α :=
  match f.get? name with
  | some j => read? j
  | none => some default

/-! ## Leaves -/

def bool? : Json → Option Bool
  | .bool b => some b
  | _ => none

def str? : Json → Option String
  | .str s => some s
  | _ => none

def whole? (b : Decimal.Bounds) : Json → Option Int
  | .whole i => if b.contains i then some i else none
  | _ => none

/-- A float; a whole number is one, too. -/
def float? : Json → Option Float
  | .float x => some x
  | .whole i => some (Float.ofInt i)
  | _ => none

def list? {α : Type} (read? : Json → Option α) : Json → Option (List α)
  | .arr items => items.mapM read?
  | _ => none

end Lodging.Json
