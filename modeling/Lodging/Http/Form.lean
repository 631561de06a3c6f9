import Lodging.Http.Percent
import Lodging.Text.Split

/-!
# Form-encoded pairs

The query of a URL as a list of names with values: pairs are parted by ampersands, name and value by
the first equals sign, and a space is written as a plus sign.
-/

namespace Lodging.Http.Form

/-- The characters that stand for themselves. -/
def keeps (c : Char) : Bool := c.isAlphanum || c == '*' || c == '-' || c == '.' || c == '_'

def encodeChar (c : Char) : List Char := if c = ' ' then ['+'] else Percent.encodeChar keeps c

def encode (s : String) : List Char := s.toList.flatMap encodeChar

def pairText (p : String × String) : List Char := encode p.1 ++ '=' :: encode p.2

def write (pairs : List (String × String)) : List Char :=
  List.intercalate ['&'] (pairs.map pairText)

def decode (s : List Char) : String :=
  .ofList (Percent.decode (s.map fun c => if c = '+' then ' ' else c))

/-- One pair; without an equals sign the value is empty. -/
def readPair (s : List Char) : String × String :=
  match Text.cut? '=' s with
  | some (name, value) => (decode name, decode value)
  | none => (decode s, "")

def read (query : List Char) : List (String × String) :=
  ((query.splitOn '&').filter (!·.isEmpty)).map readPair

end Lodging.Http.Form
