/-!
# Whole numbers in decimal

Writing whole numbers, and reading them within bounds. Reading goes from left to right and stops at
the first thing that is wrong: a character that is no digit, or a digit with which the number leaves
its bounds. Leading zeros are allowed; a sign is allowed where the bounds reach below zero, and a
plus sign always.
-/

namespace Lodging.Decimal

def digit? (c : Char) : Option Nat := if c.isDigit then some (c.toNat - '0'.toNat) else none

def digitChar (d : Nat) : Char := Char.ofNat ('0'.toNat + d)

/-- The digits of a number, most significant first, written after `acc`. -/
def digitsOnto (n : Nat) (acc : List Char) : List Char :=
  if n < 10 then digitChar n :: acc else digitsOnto (n / 10) (digitChar (n % 10) :: acc)
termination_by n

def digits (n : Nat) : List Char := digitsOnto n []

/-- At least `width` digits, filled up with zeros in front. -/
def padded (width n : Nat) : List Char :=
  List.replicate (width - (digits n).length) '0' ++ digits n

/-- A whole number with a minus sign where it is negative. -/
def signed (i : Int) : List Char :=
  match i with
  | .ofNat n => digits n
  | .negSucc n => '-' :: digits (n + 1)

def ofDigits (ds : List Nat) : Nat := ds.foldl (fun n d => n * 10 + d) 0

/-- Why a text is no whole number within the bounds. -/
inductive WholeError where
  | empty
  | invalidDigit
  | tooLarge
  | tooSmall
  deriving DecidableEq, Repr

def WholeError.message : WholeError → String
  | .empty => "cannot parse integer from empty string"
  | .invalidDigit => "invalid digit found in string"
  | .tooLarge => "number too large to fit in target type"
  | .tooSmall => "number too small to fit in target type"

structure Bounds where
  low : Int
  high : Int
  deriving DecidableEq, Repr

def int32 : Bounds := ⟨-2147483648, 2147483647⟩
def int64 : Bounds := ⟨-9223372036854775808, 9223372036854775807⟩
def word32 : Bounds := ⟨0, 4294967295⟩
def word64 : Bounds := ⟨0, 18446744073709551615⟩

def Bounds.contains (b : Bounds) (i : Int) : Bool := b.low ≤ i && i ≤ b.high

/-- Reads the digits of a number that has the value `n` so far and grows upwards. -/
def readUp (high n : Int) : List Char → Except WholeError Int
  | [] => .ok n
  | c :: rest =>
    match digit? c with
    | none => .error .invalidDigit
    | some d => if high < n * 10 + d then .error .tooLarge else readUp high (n * 10 + d) rest

/-- Reads the digits of a number that has the value `n` so far and grows downwards. -/
def readDown (low n : Int) : List Char → Except WholeError Int
  | [] => .ok n
  | c :: rest =>
    match digit? c with
    | none => .error .invalidDigit
    | some d => if n * 10 - d < low then .error .tooSmall else readDown low (n * 10 - d) rest

/-- Reads a whole number within the bounds. A lone sign has no digit. -/
def read (b : Bounds) : List Char → Except WholeError Int
  | [] => .error .empty
  | '+' :: rest => if rest.isEmpty then .error .invalidDigit else readUp b.high 0 rest
  | '-' :: rest =>
    if rest.isEmpty || 0 ≤ b.low then .error .invalidDigit else readDown b.low 0 rest
  | s => readUp b.high 0 s

/-- `read` without the reason of a failure. -/
def read? (b : Bounds) (s : List Char) : Option Int := (read b s).toOption

end Lodging.Decimal
