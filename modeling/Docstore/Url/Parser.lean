import Docstore.Text.Integer
import Docstore.Url.Host
import Docstore.Url.Path

/-!
# Reading URLs

A text is read from the scheme on; the scheme says how the rest is read. What the parts may not hold
is encoded, and what is encoded already stays so.
-/

namespace Docstore.Url

open Docstore.Text (cut? natural?)

/-- How the parts behind a scheme are read. -/
inductive Manner
  | plain
  | web (usual : Nat)
  | file
deriving DecidableEq, Repr

def mannerOf (scheme : String) : Manner :=
  match scheme with
  | "http" | "ws" => .web 80
  | "https" | "wss" => .web 443
  | "ftp" => .web 21
  | "file" => .file
  | _ => .plain

/-- Whether a character parts segments. -/
def Manner.isSlash (m : Manner) (c : Char) : Bool := c = '/' || (c = '\\' && m != .plain)

/-- Whether a character ends the path. -/
def endsPath (c : Char) : Bool := c = '?' || c = '#'

/-- A text without the blanks and controls around it and without the line breaks and tabs in it. -/
def cleaned (cs : List Char) : List Char :=
  let isBlank (c : Char) : Bool := c.toNat ≤ 0x20
  let inner := ((cs.dropWhile isBlank).reverse.dropWhile isBlank).reverse
  inner.filter fun c => c != '\t' && c != '\n' && c != '\r'

/-- The scheme in lower case, and what follows its colon. -/
def scheme? (cs : List Char) : Option (String × List Char) := do
  let (name, rest) ← cut? ':' cs
  if name.head?.any Char.isAlpha && name.all (fun c => c.isAlphanum || ['+', '-', '.'].contains c) then
    some (String.ofList (name.map Char.toLower), rest)
  else none

/-- The parts before and after the last sign. -/
def cutLast? (sign : Char) (cs : List Char) : Option (List Char × List Char) :=
  (cut? sign cs.reverse).map fun (after, before) => (before.reverse, after.reverse)

/-- The host, up to a colon outside brackets, and what follows it. -/
def cutHost (inside : Bool) : List Char → List Char × List Char
  | [] => ([], [])
  | c :: rest =>
    if c = ':' && !inside then ([], c :: rest)
    else
      let (host, after) := cutHost (c = '[' || (inside && c != ']')) rest
      (c :: host, after)

/-- A name and a password, the latter none if it is empty. -/
def credentials (login : List Char) : String × Option String :=
  let written (cs : List Char) : String := String.ofList (percentEncode isBarredInCredentials cs)
  match cut? ':' login with
  | some (user, []) => (written user, none)
  | some (user, password) => (written user, some (written password))
  | none => (written login, none)

/-- The number behind a host, and what follows it. The one that is usual for the scheme is left out. -/
def portNumber (m : Manner) (cs : List Char) : Except Flaw (Option Nat × List Char) :=
  let rest := cs.dropWhile Char.isDigit
  if rest.head?.any (· != '\\') then .error .portNumber
  else match natural? (cs.takeWhile Char.isDigit) with
    | none => .ok (none, rest)
    | some n =>
      if n < 65536 then .ok (if m = .web n then none else some n, rest) else .error .portNumber

/-- The authority, and what follows it. -/
def authorityOf (m : Manner) (cs : List Char) : Except Flaw (Authority × List Char) := do
  let ends (c : Char) : Bool := m.isSlash c || endsPath c
  let whole := cs.takeWhile (!ends ·)
  let rest := cs.dropWhile (!ends ·)
  let (login, place) := (cutLast? '@' whole).getD ([], whole)
  if whole = ['@'] && !rest.isEmpty then throw .emptyHost
  let (hostText, behind) := cutHost false place
  let host ← if m = .plain then plainHost hostText else some <$> webHost hostText
  if host.isNone && !behind.isEmpty then throw .emptyHost
  let (number, left) ← portNumber m (behind.drop 1)
  let (user, password) := credentials login
  let found : Authority := ⟨user, password, host, number⟩
  if host.isNone && !found.credentials.isEmpty then throw .emptyHost
  return (found, left ++ rest)

/--
The host of a file, and what follows it. This machine and drives are no hosts, and behind no host the
path has a slash of its own.
-/
def fileHost (cs : List Char) : Except Flaw (Option Host × List Char) :=
  let ends (c : Char) : Bool := Manner.file.isSlash c || endsPath c
  let text := cs.takeWhile (!ends ·)
  let rest := cs.dropWhile (!ends ·)
  if text.isEmpty || Path.isDrive text then .ok (none, '/' :: cs)
  else (webHost text).map fun host =>
    if host = .name "localhost" then (none, '/' :: rest) else (some host, rest)

/-- What stands between the scheme and the path, and what follows it. -/
def front (m : Manner) (cs : List Char) : Except Flaw (Option Authority × List Char) :=
  match m with
  | .plain =>
    match cs with
    | '/' :: '/' :: rest => (authorityOf m rest).map fun (a, rest) => (some a, rest)
    | _ => .ok (none, cs)
  | .web _ => (authorityOf m (cs.dropWhile m.isSlash)).map fun (a, rest) => (some a, rest)
  | .file =>
    if (cs.take 2).length = 2 && (cs.take 2).all m.isSlash then
      (fileHost (cs.drop 2)).map fun (host, rest) => (some ⟨"", none, host, none⟩, rest)
    else .ok (some ⟨"", none, none, none⟩, cs)

/-- The segments of a path. The slash in front of them may be missing. -/
def segments (m : Manner) (cs : List Char) : List (List Char) :=
  let plain := cs.map fun c => if m.isSlash c then '/' else c
  Path.resolve (m = .file) (if plain.head? = some '/' then plain.drop 1 else plain)

/--
The path. Behind a scheme alone, one that does not start with a slash has no segments; that of a file
has no empty ones in front.
-/
def pathOf (m : Manner) (lone : Bool) (cs : List Char) : String :=
  if m = .plain && cs.isEmpty then ""
  else if lone && cs.head? != some '/' then String.ofList (percentEncode isControl cs)
  else
    let found := segments m cs
    Path.print (if m = .file then found.dropWhile (·.isEmpty) else found)

/-- A file on a drive has no host. -/
def withoutHostOfDrive (m : Manner) (cs : List Char) (a : Authority) : Authority :=
  if m = .file && ((segments m cs).head?.any Path.isDrive) then { a with host := none } else a

/-- The query, if there is one. -/
def queryOf? (m : Manner) : List Char → Option String
  | '?' :: rest =>
    let barred (c : Char) : Bool := isBarredInQuery c || (c = '\x27' && m != .plain)
    some (String.ofList (percentEncode barred (rest.takeWhile (· != '#'))))
  | _ => none

/-- The fragment, if there is one. -/
def fragmentOf? (cs : List Char) : Option String :=
  (cut? '#' cs).map fun (_, rest) => String.ofList (percentEncode isBarredInFragment rest)

/-- The URL that a text writes. -/
def parse (text : String) : Except Flaw Url := do
  let some (scheme, rest) := scheme? (cleaned text.toList) | throw .noScheme
  let m := mannerOf scheme
  let (found, rest) ← front m rest
  let main := rest.takeWhile (!endsPath ·)
  let tail := rest.dropWhile (!endsPath ·)
  return ⟨scheme, found.map (withoutHostOfDrive m main), pathOf m found.isNone main, queryOf? m tail,
    fragmentOf? tail⟩

end Docstore.Url
