import Lodging.Text.Hexadecimal
import Lodging.Text.Utf8

/-!
# Percent-encoding

A byte is written as a percent sign and two hexadecimal digits. Encoding keeps a set of ASCII characters
and writes every byte of the others; decoding leaves a percent sign that no two digits follow as it is.
-/

namespace Lodging.Http.Percent

def encodeByte (b : UInt8) : List Char :=
  ['%', Text.hexChar 'A' (b.toNat / 16), Text.hexChar 'A' (b.toNat % 16)]

/-- One character: kept, or written byte by byte. -/
def encodeChar (keep : Char → Bool) (c : Char) : List Char :=
  if keep c then [c] else (String.utf8EncodeChar c).flatMap encodeByte

def encode (keep : Char → Bool) (s : List Char) : List Char := s.flatMap (encodeChar keep)

/-- The characters that a component of a URL keeps: letters, digits and four marks. -/
def isUnreserved (c : Char) : Bool :=
  c.isAlphanum || c == '-' || c == '_' || c == '.' || c == '~'

/-- A text as one component of a URL. -/
def component (s : List Char) : List Char := encode isUnreserved s

/-- The bytes of a text with the encoded ones decoded, except those in `keep`. -/
def bytes (keep : UInt8 → Bool) : List Char → List UInt8
  | '%' :: a :: b :: rest =>
    match Text.hexValue? a, Text.hexValue? b with
    | some m, some n =>
      let byte := UInt8.ofNat (m * 16 + n)
      if keep byte then
        String.utf8EncodeChar '%' ++ String.utf8EncodeChar a ++ String.utf8EncodeChar b ++
          bytes keep rest
      else byte :: bytes keep rest
    | _, _ => String.utf8EncodeChar '%' ++ bytes keep (a :: b :: rest)
  | c :: rest => String.utf8EncodeChar c ++ bytes keep rest
  | [] => []

/-- Decodes everything. Bytes that make no character are replaced. -/
def decode (s : List Char) : List Char := Text.Utf8.decode (bytes (fun _ => false) s)

end Lodging.Http.Percent
