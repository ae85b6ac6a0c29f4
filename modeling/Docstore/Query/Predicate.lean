import Docstore.Query.Operator

/-!
# Predicates

A query becomes the conjunction of what its entries become. Every entry has to contribute a
condition, but for the two shapes that are skipped: keys of auth data, and fields that the schema
does not know and the query wants to be absent.
-/

namespace Docstore.Query

/-- What a query is compiled against. -/
structure Context where
  schema : Schema
  /-- Whether names and addresses of users are compared without regard to letter case. -/
  ignoreCase : Bool
  now : Time.Instant

/-- Keys of auth data name a provider behind this. -/
def authDataMark : String := "_auth_data_"

def isAuthDataKey (key : String) : Bool := (Text.after? authDataMark key).any (· ≠ "")

def wantsAbsence (value : Json) : Bool :=
  match value.get? "$exists" with
  | some (.bool false) => true
  | _ => false

/-- Whether an entry is no constraint. -/
def isSkipped (schema : Schema) (key : String) (value : Json) : Bool :=
  isAuthDataKey key || ((schema.fieldType? key).isNone && wantsAbsence value)

/-- No stored number equals it. -/
def unmatchable : Double := Double.ofInt int64Bound

/-- Equality with a literal that is neither null nor an object. -/
def literalClauses (s : Subject) : Json → Clauses
  | .bool b =>
    if s.isDotted then .test (.equals (.cast s.key "boolean") (.bool b))
    else if s.type = some .number then .test (.equals s.operand (.number unmatchable))
    else .test (.equals s.operand (.bool b))
  | .array _ => .none
  | v =>
    if s.isDotted then .test (.equalsText s.operand (Encoding.untyped v))
    else .test (.equals s.operand (Encoding.untyped v))

/-- Equality with a typed value. -/
def typedClauses (s : Subject) (tag : String) (value : Json) : Clauses :=
  if tag = "Pointer" then
    if s.isArray then .test (.hasAny s.list [value])
    else .test (.equals s.operand (Encoding.untyped value))
  else if tag = "Date" then
    Clauses.given (Encoding.date value) fun t => .test (.equals s.operand (.timestamp t))
  else if tag = "GeoPoint" then
    Clauses.given (Geometry.point value) fun p => .test (.isPoint s.operand p)
  else if tag = "Polygon" then
    Clauses.given (Geometry.polygon ((value.get? "coordinates").getD .null)) fun ring =>
      .test (.isPolygon s.operand (Geometry.polygonText ring))
  else .none

/-- The conditions of a constraint on one field. -/
def fieldClauses (c : Context) (key : String) (value : Json) : Clauses :=
  let s : Subject := ⟨key, c.schema.fieldType? key⟩
  if c.ignoreCase && (key == "username" || key == "email") && value.isString then
    .test (.equalsFolded s.operand (Encoding.untyped value))
  else match value with
    | .null => .test (.isNull s.operand)
    | .object ops =>
      match value.typeTag? with
      | some tag => typedClauses s tag value
      | none => Operator.constraint c.now s ops
    | v => literalClauses s v

/-- An entry has to contribute a condition. -/
def required (key : String) (value : Json) : Clauses → Clauses
  | .ok [] =>
    Clauses.fail (.operationForbidden
      ("this query type is not supported yet: " ++ key ++ ": " ++ value.print))
  | r => r

/-- How combined queries are combined. -/
def combine (op : String) (members : List (List Condition)) : Condition :=
  match members with
  | [] => .test (.constant (op ≠ "$or"))
  | _ :: _ =>
    if op = "$and" then .allOf members
    else if op = "$nor" then .negate (.anyOf members)
    else .anyOf members

mutual

/-- The conditions of a query's entries, skipped ones left out. -/
def compile (c : Context) : List (String × Json) → Clauses
  | [] => .none
  | (key, value) :: rest =>
    if isSkipped c.schema key value then compile c rest
    else Clauses.append (compileEntry c key value) (compile c rest)

/-- The conditions of one entry. -/
def compileEntry (c : Context) (key : String) : Json → Clauses
  | .array members =>
    if isLogical key then
      match compileMembers c key members with
      | .ok members => .one (combine key members)
      | .error e => .error e
    else required key (.array members) (fieldClauses c key (.array members))
  | value =>
    if isLogical key then Clauses.fail (notQueries key)
    else required key value (fieldClauses c key value)

/-- The conjunctions of combined queries. -/
def compileMembers (c : Context) (key : String) : List Json → Except Failure (List (List Condition))
  | [] => .ok []
  | .object fields :: rest =>
    match compile c fields with
    | .ok cs => Clauses.after (Condition.values cs) (compileMembers c key rest) (cs :: ·)
    | .error e => .error e
  | _ :: _ => Clauses.fail (notQueries key)

end

/-- The conditions of a query whose keys are all in order. -/
def compileQuery (c : Context) (query : Document) : Clauses :=
  match validateQuery query with
  | .ok () => compile c query
  | .error f => Clauses.fault f

/-! ## Numbered predicates -/

/-- A conjunction with numbered placeholders, and what else its query asks of a statement. -/
structure Predicate where
  sql : Sql.Fragment
  orders : List Sql.Fragment
  search : Option TextSearch
deriving Repr

namespace Predicate

/-- Numbers conditions from a placeholder on. -/
def number (first : Nat) (cs : List Condition) : Predicate :=
  ⟨(Condition.conjunction cs).number first, Condition.orders first cs, Condition.search? cs⟩

def isEmpty (p : Predicate) : Bool := p.sql.isEmpty

/-- The predicate as the end of a statement; no conditions, no clause. -/
def whereClause (p : Predicate) : Sql.Fragment :=
  if p.isEmpty then [] else .text " WHERE " :: p.sql

end Predicate

/-- Compiles a query, numbered after the values that are bound already. A failure keeps its values. -/
def predicate (c : Context) (query : Document) (b : Sql.Bindings) :
    Except Fault Predicate × Sql.Bindings :=
  match compileQuery c query with
  | .ok cs => (.ok (Predicate.number b.next cs), b.append (Condition.values cs))
  | .error e => (.error e.fault, b.append e.bound)

end Docstore.Query
