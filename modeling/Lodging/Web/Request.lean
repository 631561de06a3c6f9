import Lodging.Http.MediaType
import Lodging.Http.Percent
import Lodging.Text.Split

/-!
# Requests

A request as it arrives, and the parts of its target. The path is decoded in two steps: what could be
taken for a separator stays encoded until the path has been parted.
-/

namespace Lodging.Web

structure Request where
  method : String
  /-- Path and query, or an absolute URL. -/
  target : String
  contentType : Option String
  body : String
  deriving DecidableEq, Repr

namespace Request

/-- What follows `://` in a text that begins with the name of a scheme. -/
def afterScheme? : List Char → Option (List Char)
  | ':' :: '/' :: '/' :: rest => some rest
  | c :: rest =>
    if c.isAlphanum || c == '+' || c == '-' || c == '.' then afterScheme? rest else none
  | [] => none

/-- Path and query of the target, without what follows a number sign. Scheme and host of an absolute
URL do not matter, and its path is the root if it has none. -/
def reference (r : Request) : List Char :=
  let target := r.target.toList.takeWhile (· ≠ '#')
  match afterScheme? target with
  | some rest =>
    match rest.dropWhile fun c => c != '/' && c != '?' with
    | '/' :: path => '/' :: path
    | query => '/' :: query
  | none => target

/-- Path and query; without a question mark the query is empty. -/
def parts (r : Request) : List Char × List Char :=
  (Text.cut? '?' r.reference).getD (r.reference, [])

def query (r : Request) : List Char := r.parts.2

/-- The bytes that stay encoded in the first step: percent sign, slash and plus sign. -/
def isDelicate (b : UInt8) : Bool := b = 0x25 || b = 0x2F || b = 0x2B

/-- The path after the first step. -/
def path (r : Request) : List Char :=
  Text.Utf8.decode (Http.Percent.bytes isDelicate r.parts.1)

/-- What stands after each slash of the path; `none` if it does not begin with one. -/
def segments? (r : Request) : Option (List (List Char)) :=
  match r.path with
  | '/' :: rest => some (rest.splitOn '/')
  | _ => none

/-- A segment after the second step. -/
def decodeSegment (s : List Char) : String := .ofList (Http.Percent.decode s)

def hasJson (r : Request) : Bool :=
  (r.contentType.bind fun t => Http.MediaType.read? t.toList).any (·.isJson)

end Request

end Lodging.Web
