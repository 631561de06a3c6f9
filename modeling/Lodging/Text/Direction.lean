import Lodging.Text.DirectionTable
import Lodging.Text.Table

/-!
# Direction of writing

Characters are written to the right or to the left, or take the direction of their neighbours. A word
can be read without doubt if all its characters that have a direction agree on one, and it begins and
ends with such characters.
-/

namespace Lodging.Text

inductive Direction where
  | left
  | right
  | arabicLetter
  | europeanNumeral
  | arabicNumeral
  /-- Signs of numbers, and what stands beside or between numerals. -/
  | sign | unit | numberSeparator
  | neutral
  | boundary
  | mark
  /-- What separates words or lines. -/
  | separator
  deriving DecidableEq, Repr

namespace Direction

/-- Reads the class of a run. `L` is for letters that are written from left to right. -/
def read? (w : List Char) : Option Direction :=
  match w with
  | ['L'] => some left
  | ['R'] => some right
  | ['A', 'L'] => some arabicLetter
  | ['E', 'N'] => some europeanNumeral
  | ['A', 'N'] => some arabicNumeral
  | ['E', 'S'] => some sign
  | ['E', 'T'] => some unit
  | ['C', 'S'] => some numberSeparator
  | ['O', 'N'] => some neutral
  | ['B', 'N'] => some boundary
  | ['N', 'S', 'M'] => some mark
  | ['S'] | ['B'] | ['W', 'S'] => some separator
  | _ => none

def runs : List (Nat × Direction) := readRuns read? directionData

def ofChar (c : Char) : Direction := (lookUp? runs c.toNat).getD left

/-- Whether a text with such a character is written in both directions. -/
def isRightToLeft : Direction → Bool
  | right | arabicLetter | arabicNumeral => true
  | _ => false

/-- What stands in words of either direction. -/
def isCommon : Direction → Bool
  | europeanNumeral | sign | unit | numberSeparator | neutral | boundary | mark => true
  | _ => false

/-- Whether a word can be read without doubt in one direction. Marks at the end do not count, and a word
from right to left has numerals of one kind only. -/
def agree (word : List Direction) : Bool :=
  match word with
  | [] => true
  | first :: _ =>
    let last := (word.reverse.dropWhile (· == mark)).head?
    match first with
    | left =>
      word.all (fun d => d == left || d.isCommon) &&
        last.any fun d => d == left || d == europeanNumeral
    | right | arabicLetter =>
      word.all (fun d => d.isRightToLeft || d.isCommon) &&
        last.any (fun d => d.isRightToLeft || d == europeanNumeral) &&
        !(word.contains europeanNumeral && word.contains arabicNumeral)
    | _ => false

end Direction

end Lodging.Text
