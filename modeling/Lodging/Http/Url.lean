import Lodging.Http.Host
import Lodging.Http.Path

/-!
# URLs

Absolute URLs as the web reads them: blanks around them and line breaks inside do not count, scheme and
host are brought to their normal forms, a path has its dot segments resolved, and characters that a part
cannot hold are percent-encoded. A URL has a scheme; what stands behind two slashes is its authority;
path, query and fragment follow.
-/

namespace Lodging.Http

/-- Whom to ask: a host, perhaps a port, and the user who asks. -/
structure Authority where
  user : List Char
  password : Option (List Char)
  /-- A name or an address, or nothing. -/
  host : List Char
  /-- The port, where it is not the usual one of the scheme. -/
  port : Option Nat
  deriving DecidableEq, Repr

def Authority.empty : Authority := ⟨[], none, [], none⟩

def Authority.hasUser (a : Authority) : Bool := !a.user.isEmpty || a.password.isSome

def Authority.chars (a : Authority) : List Char :=
  a.user ++ (match a.password with | some p => ':' :: p | none => []) ++
    (if a.hasUser then ['@'] else []) ++ a.host ++
    (match a.port with | some p => ':' :: Decimal.digits p | none => [])

/-- A URL in its normal form. -/
structure Url where
  scheme : List Char
  authority : Option Authority
  path : Path
  query : Option (List Char)
  fragment : Option (List Char)
  deriving DecidableEq, Repr

namespace Url

/-! ## Writing -/

/-- What stands before the path: the authority. Without one, a path that begins with two slashes has a
dot put before it, lest its first segment be read as an authority. -/
def beforePath (u : Url) : List Char :=
  match u.authority, u.path with
  | some a, _ => '/' :: '/' :: a.chars
  | none, .segments ([] :: _ :: _) => ['/', '.']
  | none, _ => []

def chars (u : Url) : List Char :=
  u.scheme ++ ':' :: u.beforePath ++ u.path.chars ++
    (match u.query with | some q => '?' :: q | none => []) ++
    (match u.fragment with | some f => '#' :: f | none => [])

def text (u : Url) : String := .ofList u.chars

def host? (u : Url) : Option (List Char) :=
  u.authority.bind fun a => if a.host.isEmpty then none else some a.host

/-! ## Schemes -/

/-- Schemes of the web with their usual ports. -/
def webPorts : List (String × Nat) :=
  [("http", 80), ("https", 443), ("ws", 80), ("wss", 443), ("ftp", 21)]

def usualPort? (scheme : List Char) : Option Nat := webPorts.lookup (.ofList scheme)

def kind (scheme : List Char) : SchemeKind :=
  if (usualPort? scheme).isSome then .web
  else if scheme = "file".toList then .file
  else .other

/-! ## Reading -/

/-- Blanks and control characters at the ends, and line breaks and tabs anywhere, do not count. -/
def clean (s : List Char) : List Char :=
  let out (c : Char) : Bool := c.toNat ≤ 0x20
  ((s.dropWhile out).reverse.dropWhile out).reverse.filter fun c =>
    !(c == '\t' || c == '\n' || c == '\r')

/-- The scheme before the first colon, in small letters, and what follows. -/
def scheme? (s : List Char) : Option (List Char × List Char) :=
  match Text.cut? ':' s with
  | some (c :: name, rest) =>
    if c.isAlpha && name.all fun c => c.isAlphanum || c == '+' || c == '-' || c == '.' then
      some ((c :: name).map Char.toLower, rest)
    else none
  | _ => none

def keepsInUser : Char → Bool :=
  Path.keeps ['"', '<', '>', '`', '#', '?', '{', '}', '/', ':', ';', '=', '@', '[', '\\', ']', '^', '|']

def keepsInQuery (kind : SchemeKind) : Char → Bool :=
  Path.keeps (if kind = .other then ['"', '<', '>', '#'] else ['"', '<', '>', '#', '\''])

def keepsInFragment : Char → Bool := Path.keeps ['"', '<', '>', '`']

/-- What stands before and behind the last at sign; `none` if there is none. -/
def cutUser? (s : List Char) : Option (List Char × List Char) :=
  (Text.cut? '@' s.reverse).map fun (after, before) => (before.reverse, after.reverse)

/-- User and password. An empty password is none. -/
def readUser (s : List Char) : List Char × Option (List Char) :=
  let encode := Percent.encode keepsInUser
  match Text.cut? ':' s with
  | some (user, []) => (encode user, none)
  | some (user, password) => (encode user, some (encode password))
  | none => (encode s, none)

/-- The host, and what stands behind the first colon outside brackets. -/
def cutPort (inBrackets : Bool) : List Char → List Char × Option (List Char)
  | [] => ([], none)
  | c :: rest =>
    if c == ':' && !inBrackets then ([], some rest)
    else
      let (host, port) := cutPort (c == '[' || (inBrackets && c != ']')) rest
      (c :: host, port)

/-- The port at the start of a text, where the usual one of the scheme and none are the same, and what
is left of the text. -/
def port? (scheme s : List Char) : Option (Option Nat × List Char) :=
  let (digits, rest) := s.span Char.isDigit
  if digits.isEmpty then some (none, rest)
  else
    match Decimal.read? ⟨0, 65535⟩ digits with
    | some p => some (if usualPort? scheme = some p.toNat then none else some p.toNat, rest)
    | none => none

/-- The authority in a text, and what is left of the text: a backslash behind the port begins the path
where it does not end the authority. `followed` says whether something follows the text. -/
def authority? (scheme s : List Char) (followed : Bool) : Option (Authority × List Char) := do
  if s == ['@'] && followed then none
  let (userText, rest) := (cutUser? s).getD ([], s)
  let (user, password) := readUser userText
  let (hostText, portText) := cutPort false rest
  let host ← if kind scheme = .other then Host.ofOther? hostText else Host.ofWeb? hostText
  let (port, rest) ← port? scheme (portText.getD [])
  let a : Authority := { user, password, host, port }
  if host.isEmpty && (portText.isSome || a.hasUser) then none
  if rest.isEmpty || rest.head? == some '\\' then some (a, rest) else none

/-- What stands before a question mark or a number sign, and the parts behind them. -/
structure Tail where
  rest : List Char
  query : Option (List Char)
  fragment : Option (List Char)

def cutTail (kind : SchemeKind) (s : List Char) : Tail :=
  let (s, fragment) := match Text.cut? '#' s with
    | some (a, b) => (a, some (Percent.encode keepsInFragment b))
    | none => (s, none)
  match Text.cut? '?' s with
  | some (a, b) => ⟨a, some (Percent.encode (keepsInQuery kind) b), fragment⟩
  | none => ⟨s, none, fragment⟩

/-- The end of an authority. -/
def endsAuthority (kind : SchemeKind) (c : Char) : Bool := Path.isSlash kind c || c == '?' || c == '#'

/-- What stands behind two slashes: an authority and the rest. Only in other schemes than those of the
web can the path be empty. -/
def withAuthority? (scheme s : List Char) : Option Url := do
  let kind := kind scheme
  let (text, rest) := s.span fun c => !endsAuthority kind c
  let (a, more) ← authority? scheme text !rest.isEmpty
  let ⟨rest, query, fragment⟩ := cutTail kind rest
  let path : Path :=
    match more, kind with
    | [], .other => if rest.isEmpty then .segments [] else .ofText kind (rest.drop 1)
    | [], _ => .ofText kind (rest.drop 1)
    | more, _ => .ofText kind (more ++ rest)
  return { scheme, authority := some a, path, query, fragment }

/-- A URL of files. Two slashes are followed by a host, unless it looks like the letter of a drive; the
own host is none, and neither is there one beside a drive. -/
def file? (scheme s : List Char) : Option Url := do
  let isSlash := Path.isSlash .file
  let isHostChar (c : Char) : Bool := !endsAuthority .file c
  let (hostText, rest) := match s with
    | a :: b :: rest =>
      if isSlash a && isSlash b && !Path.isDrive (rest.takeWhile isHostChar) then rest.span isHostChar
      else if isSlash a && isSlash b then ([], '/' :: rest)
      else ([], s)
    | _ => ([], s)
  let host ← if hostText.isEmpty then some [] else Host.ofWeb? hostText
  let ⟨rest, query, fragment⟩ := cutTail .file rest
  let text := if rest.head?.any isSlash then rest.drop 1 else rest
  let own := host = "localhost".toList ∨ (Path.split .file text).any Path.isDrive
  let a : Authority := if own then .empty else { Authority.empty with host }
  return { scheme, authority := some a, path := .ofText .file text, query, fragment }

def withoutAuthority (scheme s : List Char) : Url :=
  let ⟨rest, query, fragment⟩ := cutTail .other s
  let path : Path :=
    match rest with
    | '/' :: text => .ofText .other text
    | _ => .rootless (Percent.encode Path.keepsInRootless rest)
  { scheme, authority := none, path, query, fragment }

def ofText? (s : String) : Option Url := do
  let (scheme, rest) ← scheme? (clean s.toList)
  match kind scheme with
  | .web => withAuthority? scheme (rest.dropWhile (Path.isSlash .web))
  | .file => file? scheme rest
  | .other =>
    match rest with
    | '/' :: '/' :: rest => withAuthority? scheme rest
    | _ => some (withoutAuthority scheme rest)

/-! ## Changes -/

def withQuery (u : Url) (pairs : List (String × String)) (write : List (String × String) → List Char) :
    Url :=
  match u.query with
  | some (c :: q) => { u with query := some ((c :: q) ++ '&' :: write pairs) }
  | _ => { u with query := some (write pairs) }

def withoutUser (u : Url) : Url :=
  { u with authority := u.authority.map fun a => { a with user := [], password := none } }

end Url

end Lodging.Http
