import Lodging.Json.Basic
import Lodging.Json.Lexer

/-!
# Reading JSON

The tokens of a document are taken one by one. What is open around the current place is a stack of
frames; the state says what may come next.
-/

namespace Lodging.Json

/-- An array or object that is open, with its finished parts, last part first, and for an object the
key whose value is being read. -/
inductive Frame where
  | array (done : List Json)
  | object (done : List (Option String × Json)) (key : Option String)

inductive Due where
  | value
  | valueOrClose
  | key
  | keyOrClose
  | colon (key : Option String)
  /-- A value is complete; the frame around it goes on or closes. -/
  | rest (v : Json)

structure Reader where
  frames : List Frame
  /-- The finished members of an object that waits for a key. -/
  members : List (Option String × Json)
  due : Due

/-- The object with these members, last member first. A key that cannot be read spoils it. -/
def ofMembers (done : List (Option String × Json)) : Json :=
  match done.reverse.mapM fun (k, v) => k.map (·, v) with
  | some members => .obj members
  | none => .unusable

def ofNumeral (n : Decimal.Numeral) : Json :=
  match n.read? with
  | some (.whole i) => .whole i
  | some (.float x) => .float x
  | none => .unusable

def ofText : Option String → Json
  | some s => .str s
  | none => .unusable

/-- A token where a value is due. -/
def Reader.value (frames : List Frame) (t : Token) : Option Reader :=
  match t with
  | .null => some ⟨frames, [], .rest .null⟩
  | .bool b => some ⟨frames, [], .rest (.bool b)⟩
  | .numeral n => some ⟨frames, [], .rest (ofNumeral n)⟩
  | .text s => some ⟨frames, [], .rest (ofText s)⟩
  | .openArray => some ⟨.array [] :: frames, [], .valueOrClose⟩
  | .openObject => some ⟨frames, [], .keyOrClose⟩
  | _ => none

def Reader.step (r : Reader) (t : Token) : Option Reader :=
  match r.due, r.frames, t with
  | .value, _, t => value r.frames t
  | .valueOrClose, .array [] :: frames, .closeArray => some ⟨frames, [], .rest (.arr [])⟩
  | .valueOrClose, _, t => value r.frames t
  | .keyOrClose, _, .closeObject => some ⟨r.frames, [], .rest (.obj [])⟩
  | .keyOrClose, _, .text k => some { r with due := .colon k }
  | .key, _, .text k => some { r with due := .colon k }
  | .colon k, _, .colon => some ⟨.object r.members k :: r.frames, [], .value⟩
  | .rest v, .array done :: frames, .comma => some ⟨.array (v :: done) :: frames, [], .value⟩
  | .rest v, .array done :: frames, .closeArray =>
    some ⟨frames, [], .rest (.arr (v :: done).reverse)⟩
  | .rest v, .object done k :: frames, .comma => some ⟨frames, (k, v) :: done, .key⟩
  | .rest v, .object done k :: frames, .closeObject =>
    some ⟨frames, [], .rest (ofMembers ((k, v) :: done))⟩
  | _, _, _ => none

def ofTokens? (ts : List Token) : Option Json :=
  match ts.foldlM Reader.step ⟨[], [], .value⟩ with
  | some ⟨[], _, .rest v⟩ => some v
  | _ => none

/-- Reads a document that fills the text. -/
def read? (s : String) : Option Json := (tokens? s.toList).bind ofTokens?

end Lodging.Json
