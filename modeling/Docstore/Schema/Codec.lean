import Docstore.Schema.Basic

/-!
# Schemas as documents

The form in which the catalog keeps schemas and callers exchange them. Keys that mean nothing here
are skipped, and options that are null are as good as absent.
-/

namespace Docstore

namespace Field

/-- A boolean option. -/
def flag? : Option Json → Option (Option Bool)
  | none | some .null => some none
  | some (.bool b) => some (some b)
  | some _ => none

/-- An option that may be any value but null. -/
def given? : Option Json → Option Json
  | some .null => none
  | v => v

def toFields (f : Field) : Document :=
  f.type.toFields ++ (f.required.map fun b => ("required", Json.bool b)).toList ++
    (f.defaultValue.map fun v => ("defaultValue", v)).toList

def toJson (f : Field) : Json := .object f.toFields

def ofJson? : Json → Option Field
  | .object fields =>
    match flag? (Fields.get? "required" fields), FieldType.ofJson? true (.object fields) with
    | some required, some type => some ⟨type, required, given? (Fields.get? "defaultValue" fields)⟩
    | _, _ => none
  | _ => none

end Field

/-- Reads every value of an object. -/
def readFields {α : Type} (read : Json → Option α) (fields : Document) : Option (Fields α) :=
  fields.mapM fun (k, v) => (read v).map (k, ·)

namespace Schema

def toFields (s : Schema) : Document :=
  [("className", .string s.className),
    ("fields", .object (s.fields.map fun (k, f) => (k, f.toJson)))] ++
    (s.permissions.map fun v => ("classLevelPermissions", v)).toList ++
    if s.indexes.isEmpty then []
    else [("indexes", .object (s.indexes.map fun (k, keys) => (k, .object keys)))]

def toJson (s : Schema) : Json := .object s.toFields

/-- An object's fields. -/
def object? : Json → Option Document
  | .object fields => some fields
  | _ => none

/-- The schema made of the four parts of its document. -/
def ofParts? (className fields permissions indexes : Option Json) : Option Schema := do
  let name ← className.bind Json.text?
  let fields ← match fields with
    | none => some []
    | some v => (object? v).bind (readFields Field.ofJson?)
  let indexes ← match indexes with
    | none => some []
    | some v => (object? v).bind (readFields object?)
  return ⟨name, fields, Field.given? permissions, indexes⟩

/-- The schema that a document declares: an object, or the list of the four parts. -/
def ofJson? : Json → Option Schema
  | .object doc =>
    ofParts? (Fields.get? "className" doc) (Fields.get? "fields" doc)
      (Fields.get? "classLevelPermissions" doc) (Fields.get? "indexes" doc)
  | .array parts =>
    if parts.length ≤ 4 then ofParts? parts[0]? parts[1]? parts[2]? parts[3]? else none
  | _ => none

end Schema

end Docstore
