import Docstore.Query.Select

/-!
# Pipelines

A pipeline of stages becomes one statement. The stages are read in order, but their clauses stand in
the order of SQL; a later stage of a kind replaces what an earlier one asked for, except that columns
add up.
-/

namespace Docstore.Query

open Docstore.Sql (Fragment Bindings Statement Template words named)

/-- What rows are grouped by. -/
inductive GroupKey
  | column (name : String)
  /-- A part of a time, as an integer. -/
  | datePart (part name : String)
deriving DecidableEq, Repr

def GroupKey.template : GroupKey → Template
  | column name => named name
  | datePart part name =>
    words ("EXTRACT(" ++ part ++ " FROM ") ++ named name ++ words " AT TIME ZONE " ++
      [.literal "UTC"] ++ words ")::integer"

/-- A column of the result. -/
inductive Output
  | field (name : String)
  | key (k : GroupKey) (label : String)
  /-- A function of a column's values in a group. -/
  | accumulate (function name label : String)
  | count (label : String)
deriving DecidableEq, Repr

def Output.template : Output → Template
  | field name => named name
  | key k label => k.template ++ words " AS " ++ named label
  | accumulate function name label =>
    words (function ++ "(") ++ named name ++ words ") AS " ++ named label
  | count label => words "COUNT(*) AS " ++ named label

/-- The parts of a time that operators take. -/
def dateParts : Fields String :=
  [("$dayOfMonth", "DAY"), ("$dayOfWeek", "DOW"), ("$dayOfYear", "DOY"), ("$isoDayOfWeek", "ISODOW"),
    ("$isoWeekYear", "ISOYEAR"), ("$hour", "HOUR"), ("$minute", "MINUTE"), ("$second", "SECOND"),
    ("$millisecond", "MILLISECONDS"), ("$month", "MONTH"), ("$week", "WEEK"), ("$year", "YEAR")]

/-- The functions of groups, in the order in which they are looked for. -/
def accumulators : Fields String :=
  [("$sum", "SUM"), ("$max", "MAX"), ("$min", "MIN"), ("$avg", "AVG")]

def comparisons : Fields Comparison :=
  [("$gt", .greater), ("$lt", .less), ("$gte", .greaterOrEqual), ("$lte", .lessOrEqual)]

/-- The column that a reference names. -/
def referencedColumn (reference : String) : String :=
  if reference = "$_created_at" then "createdAt"
  else if reference = "$_updated_at" then "updatedAt"
  else (Text.after? "$" reference).getD reference

/-- The same, if it can be a name. -/
def sourceColumn (reference : String) : Result String :=
  (validateKey (referencedColumn reference)).map fun _ => referencedColumn reference

/-- The name under which a key of a document is stored. -/
def storedName (key : String) : String := if key = "_id" then "objectId" else key

/-- What the stages so far ask for. -/
structure Pipeline where
  bindings : Bindings
  outputs : List Output
  groupBy : List GroupKey
  filter : Option Fragment
  order : List Fragment
  limit : Fragment
  offset : Fragment
  /-- The column that counts. -/
  countField : Option String
  /-- The columns that make up the id of a group. -/
  groupKeys : List String
deriving Repr

namespace Pipeline

def empty : Pipeline := ⟨.empty, [], [], none, [], [], [], none, []⟩

/-! ## Groups -/

/-- What one part of a group's id stands for; other values are none. -/
def groupKey : Json → Result (Option GroupKey)
  | .string reference =>
    if reference = "" then .ok none
    else (sourceColumn reference).map fun column => some (.column column)
  | .object ((operator, .string reference) :: _) =>
    match Fields.get? operator dateParts with
    | some part => (sourceColumn reference).map fun column => some (.datePart part column)
    | none => .ok none
  | _ => .ok none

/-- The parts of a group's id with their names. -/
def groupKeysOf : Document → Result (List (String × GroupKey))
  | [] => .ok []
  | (label, v) :: rest => do
    validateKey label
    let key ← groupKey v
    let keys ← groupKeysOf rest
    return (key.map (label, ·)).toList ++ keys

/-- The keys, each where it stands first. -/
def distinctKeys (keys : List GroupKey) : List GroupKey :=
  keys.foldl (fun seen k => if k ∈ seen then seen else seen ++ [k]) []

/-- The columns of a function's result, and the column that counts if there is one. -/
def accumulate (field : String) (fields : Document) (p : Pipeline) : Result Pipeline := do
  validateKey field
  accumulators.foldlM (fun (p : Pipeline) (op, function) =>
    match Fields.get? op fields with
    | none => .ok p
    | some (.string reference) =>
      (sourceColumn reference).map fun column =>
        { p with outputs := p.outputs ++ [.accumulate function column field] }
    | some _ =>
      if op = "$sum" then
        .ok { p with outputs := p.outputs ++ [.count field], countField := some field }
      else .ok p) p

/-- One entry of a group. -/
def groupEntry (p : Pipeline) (field : String) (value : Json) : Result Pipeline :=
  match value with
  | .string reference =>
    if field = "_id" && reference ≠ "" then
      (sourceColumn reference).map fun column =>
        { p with
          outputs := p.outputs ++ [.key (.column column) "objectId"]
          groupBy := [.column column] }
    else .ok p
  | .object fields =>
    if field = "_id" && !fields.isEmpty then
      (groupKeysOf fields).map fun keys =>
        { p with
          outputs := p.outputs ++ keys.map (fun (label, k) => .key k label)
          groupBy := distinctKeys (keys.map Prod.snd)
          groupKeys := p.groupKeys ++ keys.map Prod.fst }
    else accumulate field fields p
  | _ => .ok p

def group (p : Pipeline) : Option Json → Result Pipeline
  | none => .ok p
  | some (.object entries) => entries.foldlM (fun p (field, value) => groupEntry p field value) p
  | some _ => fail (.invalidQuery "$group expects an object")

/-! ## Projections -/

/-- Whether a field is kept. -/
def isKept : Json → Bool
  | .bool b => b
  | v => v.int64? == some 1

def project (p : Pipeline) : Option Json → Result Pipeline
  | some (.object fields) =>
    fields.foldlM (fun (p : Pipeline) (field, value) =>
      if isKept value then
        (validateKey field).map fun _ => { p with outputs := p.outputs ++ [.field field] }
      else .ok p) p
  | _ => .ok p

/-! ## Filters -/

/-- The comparisons that a constraint asks for. -/
def comparisonsOf (column : String) (value : Json) : List Template :=
  comparisons.filterMap fun (op, c) =>
    (value.get? op).map fun operand =>
      (Test.compares (.column column) c (Encoding.untyped operand)).template

/-- The SQL of one constraint. Fields that the schema does not know are not constrained. -/
def constraint (schema : Schema) (key : String) (value : Json) : Result (Option Template) := do
  let column := storedName key
  validateKey column
  let compared := comparisonsOf column value
  if !compared.isEmpty then
    return some (words "(" ++ Template.join " AND " compared ++ words ")")
  match schema.fieldType? column with
  | none => return none
  | some type =>
    let v ← if type.column?.isSome then Encoding.encode type value else .ok (Encoding.untyped value)
    return some (Test.equals (.column column) v).template

/-- The constraints of a filter, and what stands between them. -/
def filterEntries (filter : Document) : Document × String :=
  match Fields.get? "$or" filter with
  | some (.array members) =>
    (members.foldl (fun all member =>
      match member with
      | .object fields => Fields.insertAll all fields
      | _ => all) [], " OR ")
  | _ => (filter, " AND ")

def constraintsOf (schema : Schema) : Document → Result (List Template)
  | [] => .ok []
  | (key, value) :: rest => do
    let c ← constraint schema key value
    let cs ← constraintsOf schema rest
    return c.toList ++ cs

/-- The rows to go on with. The members of an `$or` are taken together, the last of a key counts. -/
def filterRows (schema : Schema) (p : Pipeline) : Option Json → Result Pipeline
  | some (.object filter) =>
    let (entries, joiner) := filterEntries filter
    (constraintsOf schema entries).map fun cs =>
      let (f, b) := p.bindings.write (Template.join joiner cs)
      { p with filter := if cs.isEmpty then none else some f, bindings := b }
  | _ => .ok p

/-! ## Order and number of rows -/

/-- A number of rows. -/
def rowCount (stage : String) (v : Json) : Result Int :=
  let refused : Result Int :=
    fail (.invalidQuery (stage ++ " must be a non-negative integer, got " ++ v.print))
  match v.int64? with
  | some n => if 0 ≤ n then .ok n else refused
  | none => refused

def limitRows (p : Pipeline) : Option Json → Result Pipeline
  | none => .ok p
  | some v =>
    (rowCount "$limit" v).map fun n =>
      let (f, b) := p.bindings.write (countClause " LIMIT " (some n))
      { p with limit := f, bindings := b }

def skipRows (p : Pipeline) : Option Json → Result Pipeline
  | none => .ok p
  | some v =>
    (rowCount "$skip" v).map fun n =>
      let (f, b) := p.bindings.write (countClause " OFFSET " (some n))
      { p with offset := f, bindings := b }

def sortEntry (key : String) (direction : Json) : Result Fragment :=
  (validateKey (storedName key)).map fun _ =>
    [.name (storedName key), .text (if direction.int64? = some 1 then " ASC" else " DESC")]

def sortRows (p : Pipeline) : Option Json → Result Pipeline
  | some (.object fields) =>
    (fields.mapM fun (key, direction) => sortEntry key direction).map fun order => { p with order }
  | _ => .ok p

/-! ## Statements -/

/-- Adds one stage, its operators in a fixed order. -/
def stage (schema : Schema) (p : Pipeline) (v : Json) : Result Pipeline := do
  let p ← p.group (v.get? "$group")
  let p ← p.project (v.get? "$project")
  let p ← filterRows schema p (v.get? "$match")
  let p ← p.limitRows (v.get? "$limit")
  let p ← p.skipRows (v.get? "$skip")
  p.sortRows (v.get? "$sort")

def compile (schema : Schema) (stages : List Json) : Result Pipeline :=
  stages.foldlM (stage schema) empty

def statement (p : Pipeline) (schema : Schema) : Statement :=
  let columns := p.outputs.map fun o => o.template.number 1
  let filter : Fragment := match p.filter with
    | some f => .text " WHERE " :: f
    | none => []
  ⟨.text "SELECT " :: Sql.joinFragments ", " (orAll columns) ++ .text " FROM " ::
    .name schema.className :: filter ++
    clauseOf " GROUP BY " (p.groupBy.map fun k => k.template.number 1) ++
    clauseOf " ORDER BY " p.order ++ p.limit ++ p.offset, p.bindings.values⟩

/-! ## Rows -/

/-- A count as an integer; what is neither a number nor an integer's text stays as it is. -/
def countOf (v : Json) : Json :=
  match v.double?, v.text?.bind Text.int64? with
  | some x, _ => Json.int (x.clamp (-int64Bound) (int64Bound - 1))
  | none, some i => Json.int i
  | none, none => v

/-- The id of a group, from the columns that make it up. -/
def groupId (keys : List String) (row : Document) : Document × Document :=
  keys.foldl (fun (id, row) key =>
    (Fields.insert key ((Fields.get? key row).getD .null) id, Fields.erase key row)) ([], row)

/-- A row as it is returned: with an id, and with an integer where rows were counted. -/
def shapeRow (p : Pipeline) (row : Document) : Document :=
  let row :=
    if !p.groupKeys.isEmpty then
      let (id, row) := groupId p.groupKeys row
      Fields.insert "objectId" (.object id) row
    else if Fields.contains "objectId" row then row
    else Fields.insert "objectId" .null row
  match p.countField with
  | none => row
  | some field =>
    match Fields.get? field row with
    | some v => Fields.insert field (countOf v) row
    | none => row

end Pipeline

end Docstore.Query
