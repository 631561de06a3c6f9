import Lodging.Http.Percent
import Lodging.Text.Split

/-!
# Paths of URLs

A path is a row of segments, each with a slash before it. A segment of one dot stays where it is, and
one of two dots goes back by one segment, but never past the letter of a drive. In schemes that do not
address hosts, a path may also be a text that does not begin with a slash; nothing in it is resolved.
-/

namespace Lodging.Http

/-- How the URLs of a scheme are read. -/
inductive SchemeKind where
  /-- There is always a host, and slashes of either kind are the same. -/
  | web
  /-- As `web`, but the host is most often left out, and a path may begin with the letter of a drive. -/
  | file
  | other
  deriving DecidableEq, Repr

inductive Path where
  /-- A text that begins with no slash. -/
  | rootless (text : List Char)
  | segments (names : List (List Char))
  deriving DecidableEq, Repr

namespace Path

/-! ## Writing -/

def chars : Path → List Char
  | .rootless text => text
  | .segments names => names.flatMap ('/' :: ·)

/-! ## Reading -/

/-- What a part of a URL keeps: printable ASCII characters but those in `except`. -/
def keeps (except : List Char) (c : Char) : Bool :=
  0x20 < c.toNat && c.toNat < 0x7F && !except.contains c

def keepsInSegment : Char → Bool := keeps ['"', '<', '>', '`', '#', '?', '{', '}']

/-- A path without slash keeps its blanks, too. -/
def keepsInRootless (c : Char) : Bool := c == ' ' || keeps [] c

def isSlash (kind : SchemeKind) (c : Char) : Bool := c == '/' || (c == '\\' && kind != .other)

/-- A segment with its encoded dots decoded, in order to compare it with dots. -/
def plainDots : List Char → List Char
  | '%' :: '2' :: c :: rest =>
    if c = 'e' ∨ c = 'E' then '.' :: plainDots rest else '%' :: '2' :: plainDots (c :: rest)
  | c :: rest => c :: plainDots rest
  | [] => []

def isDot (segment : List Char) : Bool := plainDots segment == ['.']
def isDoubleDot (segment : List Char) : Bool := plainDots segment == ['.', '.']

def isDrive : List Char → Bool
  | [c, d] => c.isAlpha && (d == ':' || d == '|')
  | _ => false

/-- Whether a segment cannot be left by two dots: it is the letter of a drive, or begins with one and a
backslash. -/
def isFixed (segment : List Char) : Bool :=
  isDrive (segment.takeWhile (· != '\\'))

/-- The segments that are left when two dots follow; the last segment comes first. -/
def back : List (List Char) → List (List Char)
  | [] => []
  | s :: rest => if isFixed s then s :: rest else rest

/-- Puts a segment behind those before, last first. In a path of files the letter of a drive is written
with a colon, and what follows it at once is a segment of its own. -/
def place (kind : SchemeKind) (done : List (List Char)) (segment : List Char) : List (List Char) :=
  match kind, done, segment with
  | .file, _, [c, d] => (if isDrive [c, d] then [c, ':'] else Percent.encode keepsInSegment [c, d]) :: done
  | .file, [], c :: ':' :: rest =>
    if c.isAlpha then [Percent.encode keepsInSegment rest, [c, ':']]
    else [Percent.encode keepsInSegment segment]
  | _, _, _ => Percent.encode keepsInSegment segment :: done

/-- Resolves dot segments; `done` holds the segments before, last first. A dot segment at the end leaves
an empty segment. -/
def resolveFrom (kind : SchemeKind) (done : List (List Char)) : List (List Char) → List (List Char)
  | [] => done.reverse
  | [last] =>
    if isDoubleDot last then ([] :: back done).reverse
    else if isDot last then ([] :: done).reverse
    else (place kind done last).reverse
  | s :: rest =>
    if isDoubleDot s then resolveFrom kind (back done) rest
    else if isDot s then resolveFrom kind done rest
    else resolveFrom kind (place kind done s) rest

/-- The segments of a text before they are resolved. -/
def split (kind : SchemeKind) (text : List Char) : List (List Char) := text.splitOnP (isSlash kind)

/-- The path behind its first slash. Files have no empty segments at the start. -/
def ofText (kind : SchemeKind) (text : List Char) : Path :=
  let names := resolveFrom kind [] (split kind text)
  match kind with
  | .file =>
    match names.dropWhile (·.isEmpty) with
    | [] => .segments [[]]
    | names => .segments names
  | _ => .segments names

end Path

end Lodging.Http
