import Lodging.Text.Ascii
import Lodging.Text.Blank
import Lodging.Text.Split

/-!
# Lines of a calendar document

A document is a sequence of physical lines, each ended by a line feed with perhaps carriage returns
before it. A line that begins with a space or a tab continues the line before it; joined up, the
physical lines are the logical lines. A property line has a name, parameters behind semicolons, and a
value behind the first colon that stands outside double quotes.
-/

namespace Lodging.Calendar

/-- The line without one carriage return at its end. -/
def dropReturn (line : List Char) : List Char :=
  match line.reverse with
  | '\r' :: rest => rest.reverse
  | _ => line

/-- The lines of a text after `current`, which is last character first. A line feed takes two carriage
returns with it, the end of the text one. -/
def physicalFrom (current : List Char) : List Char → List (List Char)
  | [] => if current.isEmpty then [] else [dropReturn current.reverse]
  | c :: rest =>
    if c = '\n' then dropReturn (dropReturn current.reverse) :: physicalFrom [] rest
    else physicalFrom (c :: current) rest

def physicalLines (s : List Char) : List (List Char) := physicalFrom [] s

/-- A line that begins with one of these continues the line before it. -/
def isFold (c : Char) : Bool := c == ' ' || c == '\t'

/-- Joins the continuations that follow onto the current line. -/
def joinFrom (current : List Char) : List (List Char) → List (List Char)
  | [] => [current]
  | [] :: lines => current :: joinFrom [] lines
  | (c :: rest) :: lines =>
    if isFold c then joinFrom (current ++ rest) lines else current :: joinFrom (c :: rest) lines

/-- The logical lines. The first line continues nothing. -/
def logicalLines (s : List Char) : List (List Char) :=
  match physicalLines s with
  | [] => []
  | line :: lines => joinFrom line lines

/-- The parts of a line around its first colon outside double quotes. -/
def splitColon (quoted : Bool) : List Char → Option (List Char × List Char)
  | [] => none
  | c :: rest =>
    if c = ':' ∧ !quoted then some ([], rest)
    else (splitColon (if c = '"' then !quoted else quoted) rest).map fun (a, b) => (c :: a, b)

structure Property where
  name : List Char
  value : List Char
  deriving DecidableEq, Repr

/-- The property on a line, if it has a separator. -/
def Property.ofLine? (line : List Char) : Option Property :=
  (splitColon false line).map fun (head, value) =>
    let name := match Text.cut? ';' head with
      | some (name, _) => name
      | none => head
    ⟨Text.upperAscii (Text.trim name), Text.trim value⟩

end Lodging.Calendar
