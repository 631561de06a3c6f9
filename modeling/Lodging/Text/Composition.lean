import Lodging.Decimal.Whole
import Lodging.Text.CompositionTable
import Lodging.Text.Table

/-!
# Composed characters

A letter with marks can be written as one character or as several. Composing brings both spellings to
one form: characters are taken apart, marks that do not touch each other are put in order of their
classes, and what can be one character becomes one. Syllables of Hangul are composed by calculation,
everything else by table.
-/

namespace Lodging.Text

/-- A character with the two that it is composed of. -/
structure Composite where
  whole : Nat
  first : Nat
  second : Nat
  deriving DecidableEq, Repr

def Composite.read? (w : List Char) : Option Composite := do
  let (whole, parts) ← cut? ':' w
  let (first, second) ← cut? '.' parts
  return ⟨← hexNumber? whole, ← hexNumber? first, ← hexNumber? second⟩

def composites : List Composite := (tableWords compositionData).filterMap Composite.read?

def markClasses : List (Nat × Nat) :=
  readRuns (fun ds => some (Decimal.ofDigits (ds.filterMap Decimal.digit?))) markClassData

/-- The class of a mark; zero for characters that are no marks. -/
def markClass (n : Nat) : Nat := (lookUp? markClasses n).getD 0

/-! ## Hangul -/

/-- Whether `n` is a syllable without a final consonant. -/
def isOpenSyllable (n : Nat) : Bool := 0xAC00 ≤ n && n < 0xD7A4 && (n - 0xAC00) % 28 == 0

/-- The parts of a syllable: consonant and vowel, or an open syllable and a final consonant. -/
def syllableParts? (n : Nat) : Option (Nat × Nat) :=
  if 0xAC00 ≤ n ∧ n < 0xD7A4 then
    let i := n - 0xAC00
    if i % 28 = 0 then some (0x1100 + i / 588, 0x1161 + i % 588 / 28)
    else some (n - i % 28, 0x11A7 + i % 28)
  else none

def syllable? (a b : Nat) : Option Nat :=
  if 0x1100 ≤ a ∧ a < 0x1113 ∧ 0x1161 ≤ b ∧ b < 0x1176 then
    some (0xAC00 + (a - 0x1100) * 588 + (b - 0x1161) * 28)
  else if isOpenSyllable a ∧ 0x11A8 ≤ b ∧ b < 0x11C3 then some (a + (b - 0x11A7))
  else none

/-! ## Taking apart and joining -/

/-- The two parts of a composed character. -/
def parts? (n : Nat) : Option (Nat × Nat) :=
  (syllableParts? n).or ((composites.find? (·.whole == n)).map fun c => (c.first, c.second))

def joined? (a b : Nat) : Option Nat :=
  (syllable? a b).or ((composites.find? fun c => c.first == a && c.second == b).map (·.whole))

/-- Takes a character apart. A second part has no parts itself, a first one may, up to `depth` times. -/
def takeApart : Nat → Nat → List Nat
  | 0, n => [n]
  | depth + 1, n =>
    match parts? n with
    | some (a, b) => takeApart depth a ++ [b]
    | none => [n]

/-- Puts a character at the end of a text, last character first; a mark goes before the marks of higher
classes there. -/
def placeMark (c : Nat) : List Nat → List Nat
  | [] => [c]
  | d :: rest =>
    if markClass c ≠ 0 ∧ markClass c < markClass d then d :: placeMark c rest else c :: d :: rest

def orderMarks (s : List Nat) : List Nat := (s.foldl (fun text c => placeMark c text) []).reverse

/-- How far a text is composed: what is finished, the character that may still grow, and the marks that
stand behind it. Both lists are last first. -/
structure Composing where
  finished : List Nat
  start : Option Nat
  marks : List Nat

namespace Composing

def text (s : Composing) : List Nat := s.marks ++ s.start.toList ++ s.finished

/-- A character reaches the start if no mark of its class or a higher one stands between them. -/
def reaches (s : Composing) (c : Nat) : Bool :=
  match s.marks with
  | [] => true
  | m :: _ => markClass m < markClass c

def next (s : Composing) (c : Nat) : Composing :=
  match if s.reaches c then s.start.bind (joined? · c) else none with
  | some whole => { s with start := some whole }
  | none =>
    if markClass c = 0 then ⟨s.text, some c, []⟩ else { s with marks := c :: s.marks }

end Composing

def compose (s : List Char) : List Char :=
  let apart := orderMarks (s.flatMap fun c => takeApart 8 c.toNat)
  let composed := apart.foldl Composing.next ⟨[], none, []⟩
  composed.text.reverse.map Char.ofNat

end Lodging.Text
