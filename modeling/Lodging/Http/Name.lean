import Lodging.Http.NameTable
import Lodging.Http.Punycode
import Lodging.Text.Direction
import Lodging.Text.Joining

/-!
# Names of hosts

A name is a list of labels with dots between them. In its normal form it has small letters only, and a
label with characters outside ASCII is written in its ASCII form behind a mark. The same name can be
given in many ways: each character is first brought to a standard one, composed with its marks, and a
label that is given in ASCII form has to be what it would be written as. Names that could be misread
are refused.
-/

namespace Lodging.Http.Name

/-! ## Characters -/

/-- What becomes of the characters of a run. -/
inductive Rule where
  | refuse
  | drop
  | put (text : List Char)
  /-- Every `stride`-th character moves; the first becomes `target`. -/
  | move (target stride : Nat)
  deriving DecidableEq, Repr

/-- A run of characters and its rule. -/
structure Run where
  first : Nat
  last : Nat
  rule : Rule
  deriving DecidableEq, Repr

def Rule.read? (w : List Char) : Option Rule :=
  match w with
  | ['!'] => some .refuse
  | ['~'] => some .drop
  | '=' :: text => ((text.splitOn '.').mapM Text.hexNumber?).map fun ns => .put (ns.map Char.ofNat)
  | ':' :: target => (Text.hexNumber? target).map (.move · 1)
  | ';' :: target => (Text.hexNumber? target).map (.move · 2)
  | _ => none

/-- Reads a word of the table: a character or two with a hyphen between them, and a rule. -/
def Run.read? (w : List Char) : Option Run := do
  let isDigit (c : Char) : Bool := (Text.hexValue? c).isSome
  let (first, rest) := w.span isDigit
  let (last, rule) := match rest with
    | '-' :: rest => rest.span isDigit
    | _ => (first, rest)
  return ⟨← Text.hexNumber? first, ← Text.hexNumber? last, ← Rule.read? rule⟩

def table : List Run := (Text.tableWords nameData).filterMap Run.read?

/-- What the rule of a run makes of the character `n` in it; `none` where it is refused. -/
def Run.apply (r : Run) (n : Nat) : Option (List Char) :=
  match r.rule with
  | .refuse => none
  | .drop => some []
  | .put text => some text
  | .move target stride =>
    some [Char.ofNat (if (n - r.first) % stride = 0 then n - r.first + target else n)]

def isAscii (s : List Char) : Bool := s.all (·.toNat < 0x80)

/-- What a character of a name stands for. Characters of no run stay as they are. -/
def standard (c : Char) : Option (List Char) :=
  if c.toNat < 0x80 then some [c.toLower]
  else
    match table.find? fun r => r.first ≤ c.toNat && c.toNat ≤ r.last with
    | some r => r.apply c.toNat
    | none => some [c]

/-- A name in standard characters. -/
def standardForm? (name : List Char) : Option (List Char) :=
  (name.mapM standard).map fun parts =>
    let s := parts.flatten
    if isAscii s then s else Text.compose s

/-! ## Labels -/

/-- The mark of a label in ASCII form. -/
def mark : List Char := ['x', 'n', '-', '-']

/-- The most characters a label may have in either form in order to be brought to the other. -/
def longestLabel : Nat := 1000
def longestAsciiLabel : Nat := 2000

/-- A label as it is read. Behind the mark there has to be the ASCII form of a label that needs one and
that is in standard form. -/
def readable? (label : List Char) : Option (List Char) :=
  if mark.isPrefixOf label then
    let form := label.drop mark.length
    if !isAscii form || longestAsciiLabel < form.length then none
    else
      (Punycode.decode? form).filter fun s =>
        !isAscii s && s.all (fun c => standard c == some [c]) && Text.compose s == s
  else some label

/-- A label begins with a character of its own, and its joiners mean something. -/
def isSound (label : List Char) : Bool :=
  !(label.head?.any Text.isMark) && Text.joinersFit [] label

/-- Whether all labels can be read without doubt, if one of them is written from right to left. -/
def directionsAgree (labels : List (List Char)) : Bool :=
  let ds := labels.map (·.map Text.Direction.ofChar)
  !(ds.any (·.any Text.Direction.isRightToLeft)) || ds.all Text.Direction.agree

def written? (label : List Char) : Option (List Char) :=
  if isAscii label then some label
  else if longestLabel < label.length then none
  else some (mark ++ Punycode.encode label)

/-- The characters that no name contains. -/
def isForbidden (c : Char) : Bool :=
  c.toNat ≤ 0x20 || c.toNat == 0x7F || "#%/:<>?@[\\]^|".toList.contains c

def labels? (name : List Char) : Option (List (List Char)) := do
  let labels ← ((← standardForm? name).splitOn '.').mapM readable?
  if labels.all isAscii || (labels.all isSound && directionsAgree labels) then some labels else none

def normal? (name : List Char) : Option (List Char) := do
  let written ← (← labels? name).mapM written?
  let name := List.intercalate ['.'] written
  if name.isEmpty || name.any isForbidden then none else some name

end Lodging.Http.Name
