import Docstore.Url.Basic
import Docstore.Url.DomainName
import Docstore.Url.Percent

/-!
# Reading hosts

Most schemes take any name for a host and keep its case. The schemes of the web take domain names
alone, written in ASCII.
-/

namespace Docstore.Url

/-- What no host may hold. -/
def isBarredInHost (c : Char) : Bool :=
  c.toNat = 0 || ['\t', '\n', '\r', ' ', '#', '/', ':', '<', '>', '?', '@', '[', '\\', ']', '^', '|'].contains c

/-- What no domain name may hold, its own letters apart. -/
def isBarredInDomain (c : Char) : Bool :=
  isBarredInHost c || decide (c.toNat ≤ 0x20) || c = '%' || c.toNat = 0x7f

/-- The address between brackets, from behind the first. -/
def bracketed (cs : List Char) : Except Flaw Host :=
  match if cs.getLast? = some ']' then Ipv6.parse? cs.dropLast else none with
  | some groups => .ok (.ipv6 groups)
  | none => .error .ipv6Address

/-- A host of a scheme outside the web. An empty one is none. -/
def plainHost : List Char → Except Flaw (Option Host)
  | [] => .ok none
  | '[' :: rest => (bracketed rest).map some
  | cs =>
    if cs.any isBarredInHost then .error .domainCharacter
    else .ok (some (.name (String.ofList (percentEncode isControl cs))))

/-- A host on the web. -/
def webHost : List Char → Except Flaw Host
  | [] => .error .emptyHost
  | '[' :: rest => bracketed rest
  | cs =>
    match (Wire.text? (percentDecode cs)).bind fun text => domainName? text.toList with
    | none => .error .internationalName
    | some name =>
      if name.any isBarredInDomain then .error .internationalName
      else if name.isEmpty then .error .emptyHost
      else if Ipv4.endsInNumber name then
        match Ipv4.parse? name with
        | some address => .ok (.ipv4 address)
        | none => .error .ipv4Address
      else .ok (.name (String.ofList name))

end Docstore.Url
