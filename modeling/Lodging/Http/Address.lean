import Lodging.Decimal.Whole
import Lodging.Text.Hexadecimal
import Lodging.Text.Split

/-!
# Addresses

Hosts that are told by number. An address of four parts is written in decimal; it is read with fewer
parts, too, and in other bases. An address of eight groups is written in hexadecimal, with its longest
run of zeros left out; its last two groups are read in the form of four parts as well.
-/

namespace Lodging.Http.Address

/-! ## Four parts -/

/-- The value of a part: decimal, octal behind `0`, hexadecimal behind `0x`. -/
def part? (s : List Char) : Option Nat :=
  let ofBase (base : Nat) (ds : List Char) : Option Nat :=
    ds.foldlM (fun n c => (Text.hexValue? c).bind fun d =>
      if d < base then some (n * base + d) else none) 0
  match s with
  | [] => none
  | '0' :: 'x' :: ds | '0' :: 'X' :: ds => ofBase 16 ds
  | '0' :: d :: ds => ofBase 8 (d :: ds)
  | ds => ofBase 10 ds

/-- The labels of a name; a dot at its end counts as nothing. -/
def labels (host : List Char) : List (List Char) :=
  let ls := host.splitOn '.'
  if ls.length > 1 ∧ ls.getLast? = some [] then ls.dropLast else ls

/-- Whether a host has to be an address because its last label is a number. -/
def endsInNumber (host : List Char) : Bool :=
  match (labels host).getLast? with
  | some l => (!l.isEmpty && l.all Char.isDigit) || (part? l).isSome
  | none => false

def fourText (n : Nat) : List Char :=
  List.intercalate ['.'] ((List.range 4).map fun i => Decimal.digits (n >>> (8 * (3 - i)) % 256))

/-- The normal form of an address of four parts, written with fewer if the last covers several. -/
def four? (host : List Char) : Option (List Char) := do
  let parts ← (labels host).mapM part?
  let last ← parts.getLast?
  let before := parts.dropLast
  if 4 < parts.length ∨ before.any (255 < ·) ∨ 1 <<< (8 * (5 - parts.length)) ≤ last then none
  else some (fourText (before.zipIdx.foldl (fun n (p, i) => n + p <<< (8 * (3 - i))) last))

/-! ## Eight groups -/

/-- A group: one to four hexadecimal digits. -/
def group? (s : List Char) : Option Nat :=
  if s.isEmpty ∨ 4 < s.length then none else Text.hexNumber? s

/-- A part in the strict form: decimal, without zeros in front. -/
def strictPart? (s : List Char) : Option Nat :=
  match s with
  | '0' :: _ :: _ => none
  | _ => ((Decimal.read? ⟨0, 255⟩ s).filter fun _ => s.all Char.isDigit).map Int.toNat

/-- The two groups that are written as four parts. -/
def pair? (s : List Char) : Option (List Nat) :=
  match (s.splitOn '.').mapM strictPart? with
  | some [a, b, c, d] => some [a * 256 + b, c * 256 + d]
  | _ => none

/-- The groups of a text without a gap; the last ones may be written as four parts if it is `final`. -/
def groups? (final : Bool) (s : List Char) : Option (List Nat) :=
  if s.isEmpty then some []
  else
    let pieces := s.splitOn ':'
    match pieces.getLast? with
    | some last =>
      if final && last.contains '.' then do
        return (← pieces.dropLast.mapM group?) ++ (← pair? last)
      else pieces.mapM group?
    | none => none

/-- The two sides of the first pair of colons. -/
def gap? : List Char → Option (List Char × List Char)
  | ':' :: ':' :: rest => some ([], rest)
  | c :: rest => (gap? rest).map fun (a, b) => (c :: a, b)
  | [] => none

/-- The eight groups of an address; a gap stands for at least one group of zero. -/
def eight? (s : List Char) : Option (List Nat) :=
  match gap? s with
  | none => (groups? true s).filter (·.length = 8)
  | some (a, b) => do
    let a ← groups? false a
    let b ← groups? true b
    if 7 < a.length + b.length then none
    return a ++ List.replicate (8 - a.length - b.length) 0 ++ b

def zeroRun (gs : List Nat) : Nat := (gs.takeWhile (· == 0)).length

/-- The text of eight groups. The first of the longest runs of at least two zeros is left out. -/
def eightText (gs : List Nat) : List Char :=
  let runs := (List.range 8).map fun i => (zeroRun (gs.drop i), i)
  let (n, i) := runs.foldl (fun best r => if best.1 < r.1 then r else best) (1, 0)
  let text (gs : List Nat) := List.intercalate [':'] (gs.map (Nat.toDigits 16))
  if n < 2 then text gs else text (gs.take i) ++ [':', ':'] ++ text (gs.drop (i + n))

def bracketed? (s : List Char) : Option (List Char) :=
  (eight? s).map fun gs => '[' :: eightText gs ++ [']']

end Lodging.Http.Address
