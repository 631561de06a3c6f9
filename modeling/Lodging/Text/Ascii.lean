/-!
# Letter case in ASCII

Names of protocols, calendar properties and media types are compared with the case of the 26 ASCII
letters ignored; every other character stands for itself.
-/

namespace Lodging.Text

def upperAscii (s : List Char) : List Char := s.map Char.toUpper

def lowerAscii (s : List Char) : List Char := s.map Char.toLower

/-- Equality up to the case of ASCII letters. -/
def sameAscii (s t : List Char) : Bool := lowerAscii s == lowerAscii t

theorem sameAscii_refl (s : List Char) : sameAscii s s = true := by simp [sameAscii]

end Lodging.Text
