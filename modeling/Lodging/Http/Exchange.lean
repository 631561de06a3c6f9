import Lodging.Http.Url
import Lodging.Json.Reader

/-!
# Exchanges

Requests to other hosts and what may come of them. The network is a function from a request to its
outcome; a body arrives in chunks, with or without its length being told first, and may break off.
Together with each result goes the list of requests that were sent.
-/

namespace Lodging.Http

structure Request where
  url : Url
  userAgent : String

structure Response where
  status : Nat
  /-- The length of the body, if it was told. -/
  length : Option Nat
  chunks : List (List UInt8)
  /-- Whether the body breaks off after these chunks. -/
  broken : Bool

/-- The network: a request is answered, or cannot be sent. -/
abbrev Network := Request → Option Response

def unreachable : Network := fun _ => none

/-- Why there is no response. -/
inductive SendError where
  /-- The request cannot be built; a URL that could be read is told. -/
  | unbuildable (url : Option String)
  | unsent (url : String)
  deriving DecidableEq, Repr

def SendError.message : SendError → String
  | .unbuildable none => "builder error"
  | .unbuildable (some url) => "builder error for url (" ++ url ++ ")"
  | .unsent url => "error sending request for url (" ++ url ++ ")"

def wellFormed? (bytes : List UInt8) : Option String :=
  let s := Text.Utf8.decode bytes
  if Text.Utf8.encode s = bytes then some (.ofList s) else none

/-! ## Sending -/

/-- Whether a user can be told apart from the URL: name or password is there and can be decoded. -/
def Authority.hasReadableUser (a : Authority) : Bool :=
  let isReadable (s : List Char) : Bool := (wellFormed? (Percent.bytes (fun _ => false) s)).isSome
  isReadable a.user && (!a.user.isEmpty || a.password.any isReadable)

/-- The URL that is requested: a user is told apart from it. -/
def Url.requested (u : Url) : Url := if u.authority.any (·.hasReadableUser) then u.withoutUser else u

def longestUrl : Nat := 65534

/-- Whether a URL can be requested: only some schemes of the web can, and a few characters of hosts that
a URL may have cannot be sent. -/
def Url.isRequestable (u : Url) : Bool :=
  (u.scheme == "http".toList || u.scheme == "https".toList) &&
    !(u.host?.any fun host => host.any ['"', '`', '{', '}'].contains) &&
    u.text.utf8ByteSize ≤ longestUrl

/-- Sends a request for a URL, changed by `amend`. A URL without host is not even changed. -/
def send (net : Network) (userAgent url : String) (amend : Url → Url) :
    Except SendError Response × List Request :=
  match Url.ofText? url with
  | none => (.error (.unbuildable none), [])
  | some u =>
    if u.host?.isNone then (.error (.unbuildable (some u.text)), [])
    else
      let u := amend u.requested
      if !u.isRequestable then (.error (.unbuildable (some u.text)), [])
      else
        let request : Request := ⟨u, userAgent⟩
        match net request with
        | some r => (.ok r, [request])
        | none => (.error (.unsent u.text), [request])

/-! ## Reading the answer -/

/-- What arrives of the body. -/
def Response.body (r : Response) : List UInt8 := r.chunks.flatten

/-- The body as a document of the expected shape, if it does not break off. -/
def Response.document? {α : Type} (r : Response) (read? : Json → Option α) : Option α :=
  if r.broken then none else ((wellFormed? r.body).bind Json.read?).bind read?

/-- The text for a body that breaks off or has not the expected shape. -/
def undecodable : String := "error decoding response body"

/-- Whether a text can be the value of a header: it holds no control character but the tab. -/
def isHeaderValue (s : String) : Bool :=
  s.toList.all fun c => (0x20 ≤ c.toNat && c.toNat != 0x7F) || c == '\t'

end Lodging.Http
