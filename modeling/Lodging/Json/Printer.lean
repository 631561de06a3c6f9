import Lodging.Decimal.Layout
import Lodging.Json.Basic
import Lodging.Text.Hexadecimal

/-!
# Writing JSON

The compact form: no blanks, members in their order, and in texts only what has to be escaped.
-/

namespace Lodging.Json

def escaped (c : Char) : List Char :=
  match c with
  | '"' => ['\\', '"']
  | '\\' => ['\\', '\\']
  | '\x08' => ['\\', 'b']
  | '\x0c' => ['\\', 'f']
  | '\n' => ['\\', 'n']
  | '\r' => ['\\', 'r']
  | '\t' => ['\\', 't']
  | c =>
    if c.toNat < 0x20 then
      ['\\', 'u', '0', '0', Text.hexChar 'a' (c.toNat / 16), Text.hexChar 'a' (c.toNat % 16)]
    else [c]

def textOnto (s : String) (after : List Char) : List Char :=
  '"' :: s.toList.foldr (fun c after => escaped c ++ after) ('"' :: after)

mutual

/-- Writes a document in front of `after`. -/
def onto (after : List Char) : Json → List Char
  | .null | .unusable => "null".toList ++ after
  | .bool true => "true".toList ++ after
  | .bool false => "false".toList ++ after
  | .whole i => Decimal.signed i ++ after
  | .float x => Decimal.documented x ++ after
  | .str s => textOnto s after
  | .arr [] => '[' :: ']' :: after
  | .arr (v :: vs) => '[' :: onto (itemsOnto (']' :: after) vs) v
  | .obj [] => '{' :: '}' :: after
  | .obj ((k, v) :: ms) => '{' :: textOnto k (':' :: onto (membersOnto ('}' :: after) ms) v)

def itemsOnto (after : List Char) : List Json → List Char
  | [] => after
  | v :: vs => ',' :: onto (itemsOnto after vs) v

/-- The members after the first. -/
def membersOnto (after : List Char) : List (String × Json) → List Char
  | [] => after
  | (k, v) :: ms => ',' :: textOnto k (':' :: onto (membersOnto after ms) v)

end

def render (j : Json) : String := .ofList (onto [] j)

end Lodging.Json
