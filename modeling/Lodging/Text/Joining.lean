import Lodging.Text.Composition
import Lodging.Text.JoiningTable

/-!
# Joiners

Two characters without a shape change how their neighbours are joined in writing. In a word they mean
something only behind a sign that takes the vowel from a letter, and the one that keeps letters apart
also between two letters that would be joined.
-/

namespace Lodging.Text

/-- The sides on which a letter is joined. -/
inductive Joining where
  | left
  | right
  | both
  /-- Letters are joined across it. -/
  | passed
  | none
  deriving DecidableEq, Repr

namespace Joining

def read? (w : List Char) : Option Joining :=
  match w with
  | ['L'] => some left
  | ['R'] => some right
  | ['D'] => some both
  | ['T'] => some passed
  | _ => some none

def runs : List (Nat × Joining) := readRuns read? joiningData

def ofChar (c : Char) : Joining := (lookUp? runs c.toNat).getD none

/-- The nearest character that is not passed over. -/
def nearest? (s : List Char) : Option Joining := (s.map ofChar).find? (· != passed)

end Joining

/-- Runs of combining marks and of other characters. -/
def markRuns : List (Nat × Bool) := readRuns (fun w => some (w == ['M'])) markData

/-- Whether a character is drawn onto the one before it. -/
def isMark (c : Char) : Bool := (lookUp? markRuns c.toNat).getD false

/-- The class of the signs that take the vowel from a letter. -/
def vowelKillerClass : Nat := 9

/-- Whether every joiner of a word means something; `before` holds the characters before it, nearest
first. -/
def joinersFit (before : List Char) : List Char → Bool
  | [] => true
  | c :: rest =>
    let killed := before.head?.any fun b => markClass b.toNat == vowelKillerClass
    let parts := (Joining.nearest? before).any (fun j => j == .left || j == .both) &&
      (Joining.nearest? rest).any fun j => j == .right || j == .both
    let fits := if c == '\u200D' then killed else if c == '\u200C' then killed || parts else true
    fits && joinersFit (c :: before) rest

end Lodging.Text
