/-!
# Punycode

The ASCII form of a host label with other characters. The ASCII characters come first; then the others
are inserted in the order of their code points, each told by its distance from the one before, in digits
of mixed weight. `decode?` reads what `encode` writes.
-/

namespace Lodging.Http.Punycode

def digitChar (d : Nat) : Char :=
  if d < 26 then Char.ofNat ('a'.toNat + d) else Char.ofNat ('0'.toNat + (d - 26))

/-- The weight limit of the digit at place `k`, given the bias. -/
def threshold (k bias : Nat) : Nat :=
  if k ≤ bias then 1 else if bias + 26 ≤ k then 26 else k - bias

/-- Divides until the distance is small, counting up the places. -/
def scaleDown (delta k : Nat) : Nat × Nat :=
  if 455 < delta then scaleDown (delta / 35) (k + 36) else (delta, k)
termination_by delta
decreasing_by exact Nat.div_lt_self (by omega) (by omega)

/-- The bias after a distance was written, from the number of characters so far. -/
def adapt (delta count : Nat) (first : Bool) : Nat :=
  let d := if first then delta / 700 else delta / 2
  let (d, k) := scaleDown (d + d / count) 0
  k + 36 * d / (d + 38)

/-- The digits of a distance, from place `k` on. -/
def distanceDigits (bias k q : Nat) : List Char :=
  let t := threshold k bias
  if h : q < t ∨ t = 0 ∨ 36 ≤ t then [digitChar q]
  else digitChar (t + (q - t) % (36 - t)) :: distanceDigits bias (k + 36) ((q - t) / (36 - t))
termination_by q
decreasing_by
  have := Nat.div_le_self (q - threshold k bias) (36 - threshold k bias)
  omega

/-- How far the insertion has come. -/
structure State where
  out : List Char
  delta : Nat
  bias : Nat
  written : Nat

/-- Passes a character of the label while the code point `n` is inserted. -/
def State.pass (basic n : Nat) (s : State) (c : Nat) : State :=
  if c < n then { s with delta := s.delta + 1 }
  else if c = n then
    { out := s.out ++ distanceDigits s.bias 36 s.delta, delta := 0
      bias := adapt s.delta (s.written + 1) (s.written == basic), written := s.written + 1 }
  else s

/-- Inserts the code points in turn; `n` is the first that was not yet looked at. -/
def State.insertAll (label : List Nat) (basic n : Nat) (s : State) : List Nat → State
  | [] => s
  | m :: rest =>
    let s := { s with delta := s.delta + (m - n) * (s.written + 1) }
    let s := label.foldl (State.pass basic m) s
    State.insertAll label basic (m + 1) { s with delta := s.delta + 1 } rest

/-- The ASCII form of a label, without its mark. -/
def encode (label : List Char) : List Char :=
  let basic := label.filter (·.toNat < 0x80)
  let others := ((label.map Char.toNat).filter (0x80 ≤ ·)).mergeSort.eraseDups
  let start : State := ⟨[], 0, 72, basic.length⟩
  basic ++ (if basic.isEmpty then [] else ['-']) ++
    (start.insertAll (label.map Char.toNat) basic.length 0x80 others).out

/-! ## Reading -/

def digitValue? (c : Char) : Option Nat :=
  if 'a' ≤ c ∧ c ≤ 'z' then some (c.toNat - 'a'.toNat)
  else if c.isDigit then some (c.toNat - '0'.toNat + 26)
  else none

/-- Reads a distance from place `k` on, whose digits weigh `weight`, and adds it to `sum`; also what is
left of the text. -/
def distance? (bias k weight sum : Nat) : List Char → Option (Nat × List Char)
  | [] => none
  | c :: rest => do
    let d ← digitValue? c
    let t := threshold k bias
    if d < t then some (sum + d * weight, rest)
    else distance? bias (k + 36) (weight * (36 - t)) (sum + d * weight) rest

/-- A distance has at least one digit. -/
theorem length_lt_of_distance? {bias k weight sum n : Nat} {s rest : List Char}
    (h : distance? bias k weight sum s = some (n, rest)) : rest.length < s.length := by
  induction s generalizing k weight sum with
  | nil => simp [distance?] at h
  | cons c s ih =>
    simp only [distance?, bind, Option.bind_eq_some_iff] at h
    obtain ⟨d, _, h⟩ := h
    split at h
    · simp only [Option.some.injEq, Prod.mk.injEq] at h
      simp [← h.2]
    · have := ih h
      simp only [List.length_cons]
      omega

/-- Inserts characters as long as there are distances. `place` counts the positions passed since code
point `code`, where a turn through `out` leads to the next code point. -/
def insertRead (bias code place : Nat) (out s : List Char) : Option (List Char) :=
  if s.isEmpty then some out
  else
    match _h : distance? bias 36 1 place s with
    | none => none
    | some (sum, rest) =>
      let count := out.length + 1
      let code := code + sum / count
      if code.isValidChar then
        insertRead (adapt (sum - place) count (place == 0)) code (sum % count + 1)
          (out.insertIdx (sum % count) (Char.ofNat code)) rest
      else none
termination_by s.length
decreasing_by exact length_lt_of_distance? _h

/-- The label with this ASCII form, without its mark. A hyphen at the start cannot part the form. -/
def decode? (s : List Char) : Option (List Char) :=
  let (digits, basic) := s.reverse.span (· != '-')
  match basic with
  | [] => insertRead 72 0x80 0 [] s
  | [_] => none
  | _ :: basic => insertRead 72 0x80 0 basic.reverse digits.reverse

end Lodging.Http.Punycode
