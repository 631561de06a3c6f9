import Lodging.Decimal.Numeral
import Lodging.Text.Hexadecimal

/-!
# JSON tokens

The text of a document is read one character at a time into tokens. Between tokens there may be
blanks of four kinds. A text token holds the characters it stands for, or nothing if an escape names
half of a surrogate pair. A numeral has no leading zero, and a digit on both sides of its point.
-/

namespace Lodging.Json

open Decimal (Numeral)

inductive Token where
  | openArray | closeArray | openObject | closeObject | comma | colon
  | null
  | bool (b : Bool)
  | numeral (n : Numeral)
  | text (s : Option String)

/-- A part of a text: a character, or a 16-bit unit given by its number. -/
inductive Piece where
  | char (c : Char)
  | unit (n : Nat)

/-- Puts pieces together, last piece first. Units above the others come in pairs. -/
def assemble : List Piece → List Char → Option (List Char)
  | [], out => some out
  | .char c :: before, out => assemble before (c :: out)
  | .unit n :: before, out =>
    if n < 0xD800 ∨ 0xDFFF < n then assemble before (Char.ofNat n :: out)
    else
      match before with
      | .unit m :: before =>
        if 0xDC00 ≤ n ∧ 0xD800 ≤ m ∧ m < 0xDC00 then
          assemble before (Char.ofNat (0x10000 + (m - 0xD800) * 0x400 + (n - 0xDC00)) :: out)
        else none
      | _ => none

/-- The character after a backslash, where it is a single one. -/
def escape? (c : Char) : Option Char :=
  match c with
  | '"' => some '"'
  | '\\' => some '\\'
  | '/' => some '/'
  | 'b' => some '\x08'
  | 'f' => some '\x0c'
  | 'n' => some '\n'
  | 'r' => some '\r'
  | 't' => some '\t'
  | _ => none

/-- The digits after a point, at least one of them if there is a point. -/
def fraction? (s : List Char) : Option (List Nat × Bool × List Char) :=
  match s with
  | '.' :: r =>
    match Decimal.takeDigits r with
    | ([], _) => none
    | (ds, r) => some (ds, true, r)
  | r => some ([], false, r)

def magnitude? (negative : Bool) (s : List Char) : Option Numeral :=
  match Decimal.takeDigits s with
  | ([], _) => none
  | (0 :: _ :: _, _) => none
  | (units, s) =>
    match fraction? s with
    | none => none
    | some (fraction, point, s) =>
      match Decimal.takeExponent s with
      | some (e, []) => some ⟨negative, units, fraction, point || e.isSome, e.getD 0⟩
      | _ => none

def numeral? (s : List Char) : Option Numeral :=
  match s with
  | '-' :: r => magnitude? true r
  | r => magnitude? false r

/-- What the last characters are part of; lists are last character first. -/
inductive Partial where
  | gap
  | word (soFar : List Char)
  | number (soFar : List Char)
  | text (soFar : List Piece)
  | escape (soFar : List Piece)
  | code (soFar : List Piece) (value missing : Nat)

/-- The tokens so far, last token first, and the one under way. -/
structure Lexer where
  tokens : List Token
  part : Partial

def Lexer.begin (tokens : List Token) (c : Char) : Option Lexer :=
  match c with
  | ' ' | '\n' | '\t' | '\r' => some ⟨tokens, .gap⟩
  | '[' => some ⟨.openArray :: tokens, .gap⟩
  | ']' => some ⟨.closeArray :: tokens, .gap⟩
  | '{' => some ⟨.openObject :: tokens, .gap⟩
  | '}' => some ⟨.closeObject :: tokens, .gap⟩
  | ',' => some ⟨.comma :: tokens, .gap⟩
  | ':' => some ⟨.colon :: tokens, .gap⟩
  | '"' => some ⟨tokens, .text []⟩
  | c =>
    if c = '-' ∨ c.isDigit then some ⟨tokens, .number [c]⟩
    else if c.isLower then some ⟨tokens, .word [c]⟩
    else none

def word? (s : List Char) : Option Token :=
  match s with
  | ['n', 'u', 'l', 'l'] => some .null
  | ['t', 'r', 'u', 'e'] => some (.bool true)
  | ['f', 'a', 'l', 's', 'e'] => some (.bool false)
  | _ => none

/-- A character that can stand inside a numeral. -/
def isNumeric (c : Char) : Bool :=
  c.isDigit || c == '-' || c == '+' || c == '.' || c == 'e' || c == 'E'

/-- Closes a word or numeral under way. -/
def Lexer.close? (l : Lexer) : Option (List Token) :=
  match l.part with
  | .gap => some l.tokens
  | .word s => (word? s.reverse).map (· :: l.tokens)
  | .number s => (numeral? s.reverse).map (.numeral · :: l.tokens)
  | _ => none

def Lexer.step (l : Lexer) (c : Char) : Option Lexer :=
  match l.part with
  | .gap => begin l.tokens c
  | .word s =>
    if c.isLower then some { l with part := .word (c :: s) }
    else l.close?.bind (begin · c)
  | .number s =>
    if isNumeric c then some { l with part := .number (c :: s) }
    else l.close?.bind (begin · c)
  | .text s =>
    if c = '"' then some ⟨.text ((assemble s []).map String.ofList) :: l.tokens, .gap⟩
    else if c = '\\' then some { l with part := .escape s }
    else if c.toNat < 0x20 then none
    else some { l with part := .text (.char c :: s) }
  | .escape s =>
    if c = 'u' then some { l with part := .code s 0 4 }
    else (escape? c).map fun c => { l with part := .text (.char c :: s) }
  | .code s value missing =>
    (Text.hexValue? c).map fun d =>
      let value := value * 16 + d
      if missing ≤ 1 then { l with part := .text (.unit value :: s) }
      else { l with part := .code s value (missing - 1) }

def tokens? (s : List Char) : Option (List Token) :=
  (s.foldlM Lexer.step ⟨[], .gap⟩).bind fun l => l.close?.map List.reverse

end Lodging.Json
