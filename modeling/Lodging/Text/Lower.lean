import Lodging.Text.CaseTable

/-!
# Small letters

Full lower-casing of a text. Every character is replaced on its own, with two exceptions: the capital
I with a dot becomes two characters, and a capital sigma becomes the final form `ς` where it ends a
word and `σ` elsewhere.
-/

namespace Lodging.Text

/-- The small form of a single character, `n` itself where there is none. -/
def lowerCode (n : Nat) : Nat :=
  match lowerRuns.find? (·.maps n) with
  | some r => ((n : Int) + r.shift).toNat
  | none => n

/-- The small form of a character whose neighbours do not matter. -/
def lowerChar (c : Char) : List Char :=
  if c = 'İ' then ['i', '\u0307'] else [Char.ofNat (lowerCode c.toNat)]

def isCased (c : Char) : Bool := withinBorders casedBorders c.toNat

def isCaseIgnorable (c : Char) : Bool := withinBorders ignorableBorders c.toNat

/-- Whether the first character that counts is a cased one. -/
def meetsCased (s : List Char) : Bool :=
  match s.dropWhile isCaseIgnorable with
  | [] => false
  | c :: _ => isCased c

/-- A capital sigma ends a word if a cased character stands before it and none after it. -/
def sigmaForm (before after : List Char) : Char :=
  if meetsCased before && !meetsCased after then 'ς' else 'σ'

/-- Lower-cases `s`, which follows the characters `before` (nearest first). -/
def lowerFrom (before : List Char) : List Char → List Char
  | [] => []
  | c :: rest =>
    if c = 'Σ' then sigmaForm before rest :: lowerFrom (c :: before) rest
    else lowerChar c ++ lowerFrom (c :: before) rest

def lower (s : List Char) : List Char := lowerFrom [] s

end Lodging.Text
