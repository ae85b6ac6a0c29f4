import Docstore.Url.Ipv4
import Docstore.Url.Ipv6

/-!
# URLs

The parts of a URL, each in the form in which it is written.
-/

namespace Docstore

inductive Url.Host
  | name (text : String)
  | ipv4 (address : Nat)
  | ipv6 (groups : List Nat)
deriving DecidableEq, Repr

/-- Who is spoken to, and as whom. -/
structure Url.Authority where
  user : String
  password : Option String
  host : Option Url.Host
  portNumber : Option Nat
deriving DecidableEq, Repr

structure Url where
  scheme : String
  authority : Option Url.Authority
  path : String
  query : Option String
  fragment : Option String
deriving DecidableEq, Repr

/-- Why a text is no URL. -/
inductive Url.Flaw
  | noScheme
  | emptyHost
  | internationalName
  | domainCharacter
  | ipv4Address
  | ipv6Address
  | portNumber
deriving DecidableEq, Repr

namespace Url

def Flaw.message : Flaw → String
  | noScheme => "relative URL without a base"
  | emptyHost => "empty host"
  | internationalName => "invalid international domain name"
  | domainCharacter => "invalid domain character"
  | ipv4Address => "invalid IPv4 address"
  | ipv6Address => "invalid IPv6 address"
  | portNumber => "invalid port number"

def Host.print : Host → String
  | name text => text
  | ipv4 address => Ipv4.print address
  | ipv6 groups => "[" ++ Ipv6.print groups ++ "]"

namespace Authority

/-- The name and the password in front of the host, if there are any. -/
def credentials (a : Authority) : String :=
  match a.password with
  | some password => a.user ++ ":" ++ password ++ "@"
  | none => if a.user.isEmpty then "" else a.user ++ "@"

def print (a : Authority) : String :=
  a.credentials ++ (a.host.elim "" Host.print) ++ (a.portNumber.elim "" fun n => ":" ++ toString n)

end Authority

/-- What stands between the scheme and the path. Without an authority a path must not look like one. -/
def lead (u : Url) : String :=
  match u.authority with
  | some a => "//" ++ a.print
  | none => if (Text.after? "//" u.path).isSome then "/." else ""

def print (u : Url) : String :=
  u.scheme ++ ":" ++ u.lead ++ u.path ++ (u.query.elim "" ("?" ++ ·)) ++ (u.fragment.elim "" ("#" ++ ·))

def host? (u : Url) : Option Host := u.authority.bind (·.host)

end Url

end Docstore
