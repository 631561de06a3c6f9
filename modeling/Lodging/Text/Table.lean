import Lodging.Text.Hexadecimal
import Lodging.Text.Split

/-!
# Tables of characters

Data on characters is kept as text: words with blanks between them, characters told by their numbers in
hexadecimal digits. The simplest table parts all characters into runs; a word of it is the first
character of a run, a colon, and what its characters have in common.
-/

namespace Lodging.Text

def tableWords (table : String) : List (List Char) :=
  (table.toList.splitOnP fun c => c == ' ' || c == '\n').filter (!·.isEmpty)

/-- The runs of a table: their first characters, in order, and what is said of each run. -/
def readRuns {α : Type} (value? : List Char → Option α) (table : String) : List (Nat × α) :=
  (tableWords table).filterMap fun w => do
    let (first, value) ← cut? ':' w
    return (← hexNumber? first, ← value? value)

/-- What a table says of the character `n`, which lies in the last run that does not begin behind it. -/
def lookUp? {α : Type} (runs : List (Nat × α)) (n : Nat) : Option α :=
  ((runs.takeWhile (·.1 ≤ n)).getLast?).map (·.2)

end Lodging.Text
