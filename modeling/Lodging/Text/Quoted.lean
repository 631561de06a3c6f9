import Lodging.Text.Printable

/-!
# Quoted text

A text between double quotes, in which everything that would not show is spelled out: the quote and
the backslash, the four usual control characters, and by its number each character that is not
printable or that would merge with the one before it.
-/

namespace Lodging.Text

def hexadecimal (n : Nat) : List Char := Nat.toDigits 16 n

/-- The spelling of one character inside the quotes. -/
def escaped (c : Char) : List Char :=
  if c = '"' then ['\\', '"']
  else if c = '\\' then ['\\', '\\']
  else if c = '\x00' then ['\\', '0']
  else if c = '\t' then ['\\', 't']
  else if c = '\r' then ['\\', 'r']
  else if c = '\n' then ['\\', 'n']
  else if extendsGrapheme c || !isPrintable c then
    ['\\', 'u', '{'] ++ hexadecimal c.toNat ++ ['}']
  else [c]

def quoted (s : List Char) : List Char := '"' :: s.flatMap escaped ++ ['"']

end Lodging.Text
