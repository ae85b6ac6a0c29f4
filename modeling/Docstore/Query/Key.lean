import Docstore.Sql.Template
import Docstore.Text.CharClass
import Docstore.Text.Split

/-!
# Keys

A key of a query names a field, or by its parts between points a place inside a field that holds a
document. Only keys that cannot leave their quotes are let through.
-/

namespace Docstore.Query

/-- The parts of a key between its points. -/
def components (key : String) : List String := Text.pieces '.' key

/-- The field that a key is about. -/
def root (key : String) : String := (components key).headD ""

def isDotted (key : String) : Bool := key.toList.contains '.'

/-- The keys of queries that combine queries. -/
def isLogical (key : String) : Bool := key == "$or" || key == "$and" || key == "$nor"

/-- Quotes, backslashes, dollars and control characters. -/
def isReserved (c : Char) : Bool :=
  c = '"' || c = '\'' || c = '\\' || c = '$' || Text.isControl c

/-- A key has no empty part and no reserved character. -/
def isValidKey (key : String) : Bool :=
  (components key).all (· ≠ "") && !key.toList.any isReserved

def validateKey (key : String) : Result Unit :=
  if isValidKey key then .ok () else fail (.invalidQuery ("Invalid key name: " ++ key))

/-- The error of a combining key whose value is not a list of queries. -/
def notQueries (key : String) : Cause := .invalidQuery (key ++ " expects an array of queries")

mutual

/-- Checks the keys of a query and of the queries combined in it. -/
def validateQuery : List (String × Json) → Result Unit
  | [] => .ok ()
  | (key, value) :: rest =>
    match validateEntry key value with
    | .error e => .error e
    | .ok () => validateQuery rest

def validateEntry (key : String) : Json → Result Unit
  | .array items =>
    if isLogical key then validateMembers key items else validateKey key
  | _ => if isLogical key then fail (notQueries key) else validateKey key

def validateMembers (key : String) : List Json → Result Unit
  | [] => .ok ()
  | .object fields :: rest =>
    match validateQuery fields with
    | .error e => .error e
    | .ok () => validateMembers key rest
  | _ :: _ => fail (notQueries key)

end

/-! ## Operands -/

/-- What a constraint looks at. -/
inductive Operand
  /-- The column of that name. -/
  | column (name : String)
  /-- The text at a key's place. -/
  | text (key : String)
  /-- The document at a key's place. -/
  | json (key : String)
  /-- The text at a key's place, read as a type. -/
  | cast (key type : String)
  /-- The column of that name as a list in a document; a native list of strings is turned into one. -/
  | list (name : String) (native : Bool)
deriving DecidableEq, Repr

namespace Operand

/-- Parts of digits alone count the items of a list and are not quoted. -/
def isIndex (component : String) : Bool := component ≠ "" && component.toList.all Char.isDigit

def step (component : String) : Sql.Part :=
  if isIndex component then .text component else .literal component

/-- Steps from a field into it, the last one with an arrow of its own. -/
def steps (last : String) : List String → Sql.Template
  | [] => []
  | [c] => [.text last, step c]
  | c :: cs => .text "->" :: step c :: steps last cs

/-- The place of a key, its last step with the given arrow. -/
def path (last key : String) : Sql.Template :=
  .name (root key) :: steps last (components key).tail

def template : Operand → Sql.Template
  | column name => Sql.named name
  | text key => path "->>" key
  | json key => path "->" key
  | cast key type => Sql.words "CAST ((" ++ path "->>" key ++ Sql.words (") AS " ++ type ++ ")")
  | list name true => Sql.words "to_jsonb(" ++ Sql.named name ++ Sql.words ")"
  | list name false => Sql.named name

end Operand

end Docstore.Query
