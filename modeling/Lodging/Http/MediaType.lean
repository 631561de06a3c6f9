import Lodging.Text.Ascii
import Lodging.Text.Split

/-!
# Media types

What kind of document a body is: a type and a subtype, which may end in a suffix, and then parameters.
Reading checks the whole text, parameters included, and ignores the case of letters.
-/

namespace Lodging.Http

structure MediaType where
  subtype : List Char
  /-- What stands after the last plus sign of the subtype. -/
  suffix : Option (List Char)
  deriving DecidableEq, Repr

namespace MediaType

/-- The characters of names and of values without quotes. -/
def isToken (c : Char) : Bool := c.isAlphanum || "!#$%&'*+-.^_`|~".toList.contains c

/-- What may stand between quotes. A quote may, too, as the first character. -/
def isQuotable (c : Char) : Bool := 32 ≤ c.toNat && c.toNat < 127

/-- Where a reader of parameters stands. -/
inductive Place where
  /-- Before a name; blanks are skipped. -/
  | start
  | name
  /-- After the equals sign. -/
  | equals
  | value
  | quoted (isEmpty : Bool)
  /-- After the closing quote. -/
  | closed
  deriving DecidableEq, Repr

/-- The place after one character, unless it must not stand there. -/
def Place.next? (p : Place) (c : Char) : Option Place :=
  match p with
  | start => if c = ' ' then some start else if isToken c then some name else none
  | name => if c = '=' then some equals else if isToken c then some name else none
  | equals =>
    if c = '"' then some (quoted true) else if isToken c then some value else none
  | value => if c = ';' then some start else if isToken c then some value else none
  | quoted isEmpty =>
    if c = '"' ∧ !isEmpty then some closed
    else if isQuotable c then some (quoted false) else none
  | closed => if c = ';' then some start else if c = ' ' then some closed else none

def Place.mayEnd : Place → Bool
  | start | equals | value | closed => true
  | name | quoted _ => false

def readsParameters (s : List Char) : Bool := (s.foldlM Place.next? .start).any (·.mayEnd)

/-- The parts around the last plus sign, which must not come first. -/
def splitSuffix (s : List Char) : List Char × Option (List Char) :=
  match Text.cut? '+' s.reverse with
  | some (after, before) =>
    if before.isEmpty then (s, none) else (before.reverse, some after.reverse)
  | none => (s, none)

def read? (s : List Char) : Option MediaType := do
  let (type, rest) ← Text.cut? '/' (Text.lowerAscii s)
  let (sub, parameters) := (Text.cut? ';' rest).getD (rest, [])
  let (subtype, suffix) := splitSuffix sub
  if !type.isEmpty && type.all isToken && !sub.isEmpty && sub.all isToken &&
      readsParameters parameters then
    some ⟨subtype, suffix⟩
  else none

def isJson (m : MediaType) : Bool :=
  m.subtype == "json".toList || m.suffix == some "json".toList

end MediaType

end Lodging.Http
