import Lodging.Day.Basic
import Lodging.Decimal.Whole
import Lodging.Text.Blank

/-!
# Dates as text

A date is written as year, month and day with dashes, `2025-07-01`; a year outside 0 to 9999 has a
sign. Reading is more lenient than writing: blanks may stand before each number and after each, a
number may have fewer digits than usual, and a signed year any number of them. The same numbers
without dashes make a stamp, `20250701`.
-/

namespace Lodging.Day

open Decimal (digit?)

/-- Why a text is no date. -/
inductive TextError where
  | tooShort
  | invalid
  | trailing
  | outOfRange
  deriving DecidableEq, Repr

def TextError.message : TextError → String
  | .tooShort => "premature end of input"
  | .invalid => "input contains invalid characters"
  | .trailing => "trailing input"
  | .outOfRange => "input is out of range"

/-! ## Writing -/

def yearText (year : Int) : List Char :=
  if 0 ≤ year ∧ year ≤ 9999 then Decimal.padded 4 year.toNat
  else if year < 0 then '-' :: Decimal.padded 4 (-year).toNat
  else '+' :: Decimal.padded 4 year.toNat

def chars (d : Day) : List Char :=
  let c := d.civil
  yearText c.year ++ '-' :: Decimal.padded 2 c.month.toNat ++ '-' :: Decimal.padded 2 c.day.toNat

def text (d : Day) : String := .ofList d.chars

/-! ## Reading -/

/-- At most `limit` digits after those that made `n`, and the rest of the text. -/
def moreDigits : Nat → Nat → List Char → Nat × List Char
  | 0, n, s => (n, s)
  | _ + 1, n, [] => (n, [])
  | limit + 1, n, c :: rest =>
    match digit? c with
    | some d => moreDigits limit (n * 10 + d) rest
    | none => (n, c :: rest)

/-- A number of one to `limit` digits. -/
def numberUpTo (limit : Nat) (s : List Char) : Except TextError (Nat × List Char) :=
  match s with
  | [] => .error .tooShort
  | c :: _ => if (digit? c).isNone then .error .invalid else .ok (moreDigits limit 0 s)

/-- A number that may not leave its bounds, with blanks before it. -/
def boundedNumber (limit low high : Nat) (s : List Char) :
    Except TextError (Nat × List Char) := do
  let (n, s) ← numberUpTo limit (Text.trimStart s)
  if low ≤ n ∧ n ≤ high then return (n, s) else throw .outOfRange

/-- A year: four digits, or a sign and any number of digits. -/
def year (s : List Char) : Except TextError (Int × List Char) := do
  let (y, s) ← match Text.trimStart s with
    | '-' :: r => (numberUpTo r.length r).map fun (n, s) => (-(n : Int), s)
    | '+' :: r => (numberUpTo r.length r).map fun (n, s) => ((n : Int), s)
    | r => (numberUpTo 4 r).map fun (n, s) => ((n : Int), s)
  if Decimal.int32.contains y then return (y, s) else throw .outOfRange

/-- A dash, with blanks before it. -/
def dash (s : List Char) : Except TextError (List Char) :=
  match Text.trimStart s with
  | [] => .error .tooShort
  | '-' :: rest => .ok rest
  | _ => .error .invalid

/-- The day of the numbers that were read, if nothing is left of the text. -/
def finish (y : Int) (m d : Nat) (rest : List Char) : Except TextError Day :=
  match rest, ofCivil? ⟨y, m, d⟩ with
  | _ :: _, _ => .error .trailing
  | [], some day => .ok day
  | [], none => .error .outOfRange

def read (s : List Char) : Except TextError Day := do
  let (y, s) ← year s
  let s ← dash s
  let (m, s) ← boundedNumber 2 1 12 s
  let s ← dash s
  let (d, s) ← boundedNumber 2 1 31 s
  finish y m d (Text.trimStart s)

def readStamp (s : List Char) : Except TextError Day := do
  let (y, s) ← year s
  let (m, s) ← boundedNumber 2 1 12 s
  let (d, s) ← boundedNumber 2 1 31 s
  finish y m d s

end Lodging.Day
