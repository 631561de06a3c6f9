import Lodging.Decimal.Whole

/-!
# The shortest decimal of a float

Every finite float is `mantissa * 2 ^ exponent`. The reals that round to it form an interval around
it, which holds its ends when the mantissa is even. The shortest decimal of the float is a number in
this interval with as few digits as possible; of two it is the nearer one. On the grid of decimals
with a given number of digits only the two neighbours of the float need to be looked at: if any point
of the grid lies in the interval, one of these does.

All arithmetic is exact, on natural numbers.
-/

namespace Lodging.Decimal

/-- A finite float without its sign. -/
structure Binary where
  mantissa : Nat
  exponent : Int
  deriving DecidableEq, Repr

/-- The smallest mantissa of a normal float: two to the power of 52. -/
def leastNormal : Nat := 4503599627370496

def Binary.ofBits (bits : Nat) : Binary :=
  let fraction : Nat := bits % leastNormal
  let field : Nat := bits / leastNormal % 2048
  if field = 0 then ⟨fraction, -1074⟩ else ⟨fraction + leastNormal, (field : Int) - 1075⟩

/-- The magnitude of a float, and a quarter of its last place below and above it, as natural numbers
over one common power of two. -/
structure Interval where
  low : Nat
  value : Nat
  high : Nat
  /-- Whether the ends belong to it. -/
  closed : Bool
  /-- The common denominator. -/
  denominator : Nat
  deriving DecidableEq, Repr

/-- The reals that round to `b`. Below a power of two the floats lie twice as close. -/
def Binary.interval (b : Binary) : Interval :=
  let up := 1 <<< b.exponent.toNat
  let below := if b.mantissa = leastNormal ∧ -1074 < b.exponent then 1 else 2
  { low := (4 * b.mantissa - below) * up
    value := 4 * b.mantissa * up
    high := (4 * b.mantissa + 2) * up
    closed := b.mantissa % 2 == 0
    denominator := 4 <<< (-b.exponent).toNat }

def Interval.holds (i : Interval) (n scale : Nat) : Bool :=
  let x := n * i.denominator
  if i.closed then i.low * scale ≤ x && x ≤ i.high * scale
  else i.low * scale < x && x < i.high * scale

/-- The exponent of the first digit of `value / denominator`. It is read off the number of digits of
the whole part after a shift that makes every positive float larger than one. -/
def Interval.leading (i : Interval) : Int :=
  ((digits (i.value * Nat.pow 10 330 / i.denominator)).length : Int) - 331

/-- Which of two decimals is taken that are equally near. -/
inductive Tie where
  | toEven
  /-- The larger one. -/
  | up
  deriving DecidableEq, Repr

/-- Whether the smaller one is taken, given its digits. -/
def Tie.takesBelow (t : Tie) (digits : Nat) : Bool :=
  match t with
  | toEven => digits % 2 == 0
  | up => false

/-- A decimal: `digits * 10 ^ exponent`. -/
structure Scaled where
  digits : Nat
  exponent : Int
  deriving DecidableEq, Repr

/-- The two neighbours of the value among the multiples of `10 ^ exponent`: the one in the interval,
or the nearer one if both are. -/
def Interval.onGrid? (i : Interval) (tie : Tie) (exponent : Int) : Option Scaled :=
  let scale := Nat.pow 10 (-exponent).toNat
  let unit := Nat.pow 10 exponent.toNat
  let floor := i.value * scale / (i.denominator * unit)
  let below := i.holds (floor * unit) scale && 0 < floor
  let above := i.holds ((floor + 1) * unit) scale
  if below && above then
    let twice := 2 * i.value * scale
    let middle := (2 * floor + 1) * unit * i.denominator
    if twice < middle || (twice == middle && tie.takesBelow floor) then some ⟨floor, exponent⟩
    else some ⟨floor + 1, exponent⟩
  else if below then some ⟨floor, exponent⟩
  else if above then some ⟨floor + 1, exponent⟩
  else none

/-- The number without the zeros at its end, at most `fuel` of them. -/
def Scaled.stripped (s : Scaled) : Nat → Scaled
  | 0 => s
  | fuel + 1 =>
    if s.digits % 10 == 0 && s.digits != 0 then
      Scaled.stripped ⟨s.digits / 10, s.exponent + 1⟩ fuel
    else s

/-- The shortest decimal of a positive float. Seventeen digits always suffice. -/
def Binary.shortest (b : Binary) (tie : Tie) : Scaled :=
  let i := b.interval
  let leading := i.leading
  match (List.range 17).findSome? fun (n : Nat) => i.onGrid? tie (leading - n) with
  | some s => s.stripped 17
  | none => ⟨0, 0⟩

def shortest (x : Float) (tie : Tie) : Scaled :=
  let b := Binary.ofBits x.toBits.toNat
  if b.mantissa = 0 then ⟨0, 0⟩ else b.shortest tie

/-- The sign bit. Zero has one, too. -/
def isNegative (x : Float) : Bool := 9223372036854775808 ≤ x.toBits.toNat

end Lodging.Decimal
