import Docstore.Error
import Docstore.Url.Parser

/-!
# Connection addresses

Where a database is found, and as whom. An address is written as a URL; its parts stay encoded.
-/

namespace Docstore

structure Address where
  host : String
  portNumber : Option Nat
  user : Option String
  password : Option String
  database : String
deriving DecidableEq, Repr

namespace Address

/-- The schemes of addresses. -/
def schemes : List String := ["postgres", "postgresql"]

/-- The path without the slashes in front of it. -/
def databaseOf (u : Url) : String := String.ofList (u.path.toList.dropWhile (· == '/'))

/-- The address that a URL gives. -/
def ofUrl (u : Url) : Result Address := do
  let refuse (reason : String) : Result Address :=
    fail (.invalidConnectionUrl (reason ++ "; url=" ++ u.print))
  if !schemes.contains u.scheme then
    refuse "connection URL does not have a \x60postgresql\x60 scheme"
  else match u.authority, u.host? with
    | some a, some host =>
      let database := databaseOf u
      if database.isEmpty then refuse "no database specified - missing path in connection URL"
      else
        return {
          host := host.print
          portNumber := a.portNumber
          user := if a.user.isEmpty then none else some a.user
          password := a.password
          database }
    | _, _ => refuse "missing host in connection URL"

/-- Reads an address. -/
def parse (text : String) : Result Address :=
  match Url.parse text with
  | .ok u => ofUrl u
  | .error flaw => fail (.invalidConnectionUrl (flaw.message ++ "; url=" ++ text))

end Address

end Docstore
