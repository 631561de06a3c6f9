import Lodging.Decimal.Shortest

/-!
# How floats are written

Two layouts of the shortest decimal. In running text a float is written out in full, however long,
and a whole number has no point; of two equally near decimals it is the larger one. In documents it
always has a point or an exponent, so that it reads as a float again, very large and very small ones
have an exponent, and a tie goes to the even digit.
-/

namespace Lodging.Decimal

def zeros (n : Nat) : List Char := List.replicate n '0'

/-- A decimal written out without an exponent; `whole` is put behind a number without a fraction. -/
def Scaled.positional (s : Scaled) (whole : List Char) : List Char :=
  let ds := Decimal.digits s.digits
  match s.exponent with
  | .ofNat e => if s.digits = 0 then '0' :: whole else ds ++ zeros e ++ whole
  | .negSucc e =>
    let places := e + 1
    if places < ds.length then
      ds.take (ds.length - places) ++ '.' :: ds.drop (ds.length - places)
    else ['0', '.'] ++ zeros (places - ds.length) ++ ds

/-- A decimal with one digit before the point and an exponent. -/
def Scaled.scientific (s : Scaled) : List Char :=
  let ds := Decimal.digits s.digits
  let tail := 'e' :: signed (s.exponent + ds.length - 1)
  match ds with
  | [] => tail
  | [d] => d :: tail
  | d :: rest => d :: '.' :: rest ++ tail

/-- The decimal in a document: positional when the point falls within the first sixteen digits or at
most five places before them. -/
def Scaled.documented (s : Scaled) : List Char :=
  let point : Int := s.exponent + (Decimal.digits s.digits).length
  if -5 < point ∧ point ≤ 16 then s.positional ['.', '0'] else s.scientific

def sign (x : Float) : List Char := if isNegative x then ['-'] else []

/-- A float in running text. -/
def plain (x : Float) : List Char :=
  if x.isNaN then ['N', 'a', 'N']
  else if x.isInf then sign x ++ ['i', 'n', 'f']
  else sign x ++ (shortest x .up).positional []

def documented (x : Float) : List Char := sign x ++ (shortest x .toEven).documented

end Lodging.Decimal
