import Lodging.Http.Address
import Lodging.Http.Name
import Lodging.Http.Percent

/-!
# Hosts

The host of a URL in its normal form. In the schemes of the web it is a name or an address; in other
schemes it is any text without the signs that part a URL. Addresses of eight groups stand in brackets in
both.
-/

namespace Lodging.Http.Host

def inBrackets? (host : List Char) : Option (List Char) :=
  match host with
  | '[' :: rest => if rest.getLast? = some ']' then some rest.dropLast else none
  | _ => none

/-- The normal form of a host in a scheme of the web. A name whose last label is a number has to be an
address. -/
def ofWeb? (host : List Char) : Option (List Char) :=
  if host.head? = some '[' then (inBrackets? host).bind Address.bracketed?
  else
    (Name.normal? (Percent.decode host)).bind fun name =>
      if Address.endsInNumber name then Address.four? name else some name

/-- The characters that a host contains in no scheme. -/
def isForbidden (c : Char) : Bool := "\x00\t\n\r #/:<>?@[\\]^|".toList.contains c

/-- The normal form of a host in any other scheme. -/
def ofOther? (host : List Char) : Option (List Char) :=
  if host.head? = some '[' then (inBrackets? host).bind Address.bracketed?
  else if host.any isForbidden then none
  else some (Percent.encode (fun c => 0x20 ≤ c.toNat && c.toNat < 0x7F) host)

end Lodging.Http.Host
