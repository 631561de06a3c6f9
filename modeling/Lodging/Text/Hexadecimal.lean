/-!
# Hexadecimal numbers

Digits of base sixteen, read with letters of either case and written with letters of one.
-/

namespace Lodging.Text

def hexValue? (c : Char) : Option Nat :=
  if c.isDigit then some (c.toNat - '0'.toNat)
  else if 'a' ≤ c ∧ c ≤ 'f' then some (c.toNat - 'a'.toNat + 10)
  else if 'A' ≤ c ∧ c ≤ 'F' then some (c.toNat - 'A'.toNat + 10)
  else none

/-- The number that hexadecimal digits stand for; `none` if another character is among them. -/
def hexNumber? (ds : List Char) : Option Nat :=
  ds.foldlM (fun n c => (hexValue? c).map (n * 16 + ·)) 0

/-- The digit of value `d`; the letters go on from `ten`. -/
def hexChar (ten : Char) (d : Nat) : Char :=
  if d < 10 then Char.ofNat ('0'.toNat + d) else Char.ofNat (ten.toNat + (d - 10))

theorem hexValue?_hexChar {ten : Char} (hten : ten ∈ ['a', 'A']) :
    ∀ d < 16, hexValue? (hexChar ten d) = some d := by
  have hten : ten = 'a' ∨ ten = 'A' := by simpa using hten
  rcases hten with rfl | rfl <;> decide

theorem hexChar_inj {ten : Char} (hten : ten ∈ ['a', 'A']) {d e : Nat} (hd : d < 16) (he : e < 16)
    (h : hexChar ten d = hexChar ten e) : d = e := by
  have hd' := hexValue?_hexChar hten d hd
  rw [h, hexValue?_hexChar hten e he] at hd'
  exact (Option.some.inj hd').symm

end Lodging.Text
