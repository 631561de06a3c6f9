import Lodging.Decimal.Whole

/-!
# Numerals

A numeral is a run of digits with perhaps a point and an exponent. Free text is read to the nearest
float; a numeral in a document is read more simply, with a single rounding division or product by a
power of ten after its first digits, and a float that would be too large is refused.
-/

namespace Lodging.Decimal

/-- The digits before and after the point, and the exponent with its sign. -/
structure Numeral where
  negative : Bool
  whole : List Nat
  fraction : List Nat
  /-- Whether there is a point or an exponent at all. -/
  fractional : Bool
  exponent : Int
  deriving DecidableEq, Repr

def takeDigits (s : List Char) : List Nat × List Char :=
  ((s.takeWhile Char.isDigit).filterMap digit?, s.dropWhile Char.isDigit)

/-- An exponent mark with at least one digit; `none` if the mark has none. -/
def takeExponent (s : List Char) : Option (Option Int × List Char) :=
  match s with
  | c :: rest =>
    if c = 'e' ∨ c = 'E' then
      let (negative, rest) := match rest with
        | '-' :: r => (true, r)
        | '+' :: r => (false, r)
        | r => (false, r)
      match takeDigits rest with
      | ([], _) => none
      | (ds, rest) =>
        let n : Int := ofDigits ds
        some (some (if negative then -n else n), rest)
    else some (none, s)
  | [] => some (none, [])

def withSign (negative : Bool) (x : Float) : Float := if negative then -x else x

/-- The float nearest to the numeral. Beyond four hundred places it is zero or infinite. -/
def Numeral.nearest (n : Numeral) : Float :=
  let ds := (n.whole ++ n.fraction).dropWhile (· == 0)
  let exponent := n.exponent - n.fraction.length
  let size := exponent + ds.length
  withSign n.negative <|
    if ds.isEmpty || size < -400 then 0
    else if 400 < size then 1.0 / 0.0
    else if 0 ≤ exponent then Float.ofScientific (ofDigits ds) false exponent.toNat
    else Float.ofScientific (ofDigits ds) true (-exponent).toNat

/-- The words for the numbers that no numeral can express. -/
def named? (s : List Char) : Option Float :=
  let s := s.map Char.toLower
  if s = ['i', 'n', 'f'] ∨ s = ['i', 'n', 'f', 'i', 'n', 'i', 't', 'y'] then some (1.0 / 0.0)
  else if s = ['n', 'a', 'n'] then some (0.0 / 0.0)
  else none

/-- A numeral without a sign that fills the text. It needs a digit before or after its point. -/
def unsigned? (negative : Bool) (s : List Char) : Option Numeral :=
  let (whole, s) := takeDigits s
  let (fraction, point, s) := match s with
    | '.' :: r => let (f, r) := takeDigits r; (f, true, r)
    | r => ([], false, r)
  if whole.isEmpty && fraction.isEmpty then none
  else
    match takeExponent s with
    | some (e, []) => some ⟨negative, whole, fraction, point || e.isSome, e.getD 0⟩
    | _ => none

def float? (s : List Char) : Option Float :=
  let (negative, s) := match s with
    | '-' :: r => (true, r)
    | '+' :: r => (false, r)
    | r => (false, r)
  match named? s with
  | some x => some (withSign negative x)
  | none => (unsigned? negative s).map Numeral.nearest

/-! ## Numerals in documents -/

/-- Takes digits into a number as long as it fits into 64 bits; also what is left of the digits. -/
def absorb (n : Nat) : List Nat → Nat × List Nat
  | [] => (n, [])
  | d :: rest => if n * 10 + d ≤ word64.high then absorb (n * 10 + d) rest else (n, d :: rest)

def tenTo (e : Nat) : Float := Float.ofScientific 1 false e

/-- `significand * 10 ^ exponent` with one division or product, two where the exponent is very
small; `none` if the result is too large. -/
def scale? (significand : Nat) (exponent : Int) : Option Float :=
  let f := significand.toUInt64.toFloat
  if significand = 0 then some 0
  else if 308 < exponent then none
  else if 0 ≤ exponent then
    let x := f * tenTo exponent.toNat
    if x.isInf then none else some x
  else if -308 ≤ exponent then some (f / tenTo (-exponent).toNat)
  else if -616 ≤ exponent then some (f / tenTo 308 / tenTo (-exponent - 308).toNat)
  else some 0

/-- The float that a numeral in a document stands for. -/
def Numeral.documentFloat? (n : Numeral) : Option Float :=
  let (significand, dropped) := absorb 0 n.whole
  let (significand', unread) := absorb significand n.fraction
  let places : Int := n.fraction.length - unread.length
  (scale? significand' (n.exponent + dropped.length - places)).map (withSign n.negative)

/-- A numeral in a document: a whole number if it is written as one and fits into 64 bits, else a
float. A negative zero is a float. -/
inductive Read where
  | whole (i : Int)
  | float (x : Float)

def Numeral.read? (n : Numeral) : Option Read :=
  let whole := ofDigits n.whole
  if n.fractional then n.documentFloat?.map .float
  else if n.negative then
    if 0 < whole ∧ int64.contains (-whole) then some (.whole (-whole)) else n.documentFloat?.map .float
  else if word64.contains whole then some (.whole whole)
  else n.documentFloat?.map .float

end Lodging.Decimal
