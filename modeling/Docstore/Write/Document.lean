import Docstore.Error
import Docstore.Json.Basic
import Docstore.Text.Split

/-!
# Written documents

Steps that a document takes on its way into a table: keys with points become nested objects, keys of
auth data become entries of one object, and an update becomes the document that an upsert inserts.
-/

namespace Docstore.Write

/-! ## Keys with points -/

/-- An object's fields; other values count as the empty object. -/
def fieldsOf : Json → Document
  | .object fields => fields
  | _ => []

/--
Sets the place that a path of keys leads to, or removes it. Objects on the way are made where they
are missing, and in place of values that are no objects.
-/
def setAt (value : Option Json) : List String → Json → Json
  | [], v => v
  | [key], v =>
    match value with
    | some w => .object (Fields.insert key w (fieldsOf v))
    | none => .object (Fields.erase key (fieldsOf v))
  | key :: rest, v =>
    let inner := (Fields.get? key (fieldsOf v)).getD (.object [])
    .object (Fields.insert key (setAt value rest inner) (fieldsOf v))

/-- A value to set, or nothing if it asks for a removal. -/
def unlessDelete (value : Json) : Option Json :=
  if value.operation? = some "Delete" then none else some value

def hasPoint (key : String) : Bool := key.toList.contains '.'

/-- Nests keys with points, after the keys without. -/
def expandDots (object : Document) : Document :=
  let plain := object.filter fun (key, _) => !hasPoint key
  let dotted := object.filter fun (key, _) => hasPoint key
  dotted.foldl (fun out (key, value) =>
    fieldsOf (setAt (unlessDelete value) (Text.pieces '.' key) (.object out))) plain

/-! ## Nested keys -/

/-- Whether a key could be taken for an operator or a path. -/
def isReservedKey (key : String) : Bool := key.toList.any fun c => c = '$' || c = '.'

mutual

/-- Whether some object of a value has a reserved key. -/
def hasReservedKey : Json → Bool
  | .object fields => anyReserved fields
  | .array items => anyItemReserved items
  | _ => false

def anyReserved : List (String × Json) → Bool
  | [] => false
  | (key, value) :: rest => isReservedKey key || hasReservedKey value || anyReserved rest

def anyItemReserved : List Json → Bool
  | [] => false
  | item :: rest => hasReservedKey item || anyItemReserved rest

end

def validateNestedKeys (value : Json) : Result Unit :=
  if hasReservedKey value then
    fail (.invalidNestedKey "Nested keys should not contain the '$' or '.' characters")
  else .ok ()

/-! ## Auth data -/

def isProviderChar (c : Char) : Bool := c.isAlphanum || c = '_'

/-- The provider that a key of auth data names. -/
def authDataProvider? (key : String) : Option String :=
  match Text.after? "_auth_data_" key with
  | some provider =>
    if provider ≠ "" && provider.toList.all isProviderChar then some provider else none
  | none => none

/-- Moves one entry of auth data into the object of all of them. -/
def foldProvider (object : Document) (key provider : String) : Document :=
  match Fields.get? key object with
  | none => object
  | some value =>
    let object := Fields.erase key object
    let authData := fieldsOf ((Fields.get? "authData" object).getD (.object []))
    Fields.insert "authData" (.object (Fields.insert provider value authData)) object

/-- Moves the entries of auth data into one object, which stays where it is or comes last. -/
def foldAuthData (object : Document) : Document :=
  object.foldl (fun out (key, _) =>
    match authDataProvider? key with
    | some provider => foldProvider out key provider
    | none => out) object

/-- The entries of auth data under their providers. -/
def providersOf (object : Document) : Document :=
  Fields.ofPairs (object.filterMap fun (key, value) => (authDataProvider? key).map (·, value))

/-- Moves the entries of auth data into one object, which comes first. -/
def foldAuthDataFirst (object : Document) : Document :=
  let providers := providersOf object
  if providers.isEmpty then object
  else
    let rest := object.filter fun (key, _) => (authDataProvider? key).isNone
    let existing := fieldsOf ((Fields.get? "authData" rest).getD .null)
    let kept := existing.filter fun (provider, _) => !Fields.contains provider providers
    ("authData", .object (providers ++ kept)) :: Fields.erase "authData" rest

/-! ## Upserts -/

/-- Whether a constraint names the value that it wants. -/
def isLiteral (value : Json) : Bool :=
  match value with
  | .object ops => value.typeTag?.isSome || !ops.any fun (key, _) => key.toList.head? = some '$'
  | _ => true

/-- What an update's value leaves of a document that does not have the key yet. -/
def resolveInto (document : Document) (key : String) (value : Json) : Document :=
  let set (v : Option Json) : Document :=
    match v with
    | some v => Fields.insert key v document
    | none => document
  match value.operation? with
  | none => set (some value)
  | some "Increment" => set (value.get? "amount")
  | some "Add" => set (value.get? "objects")
  | some "AddUnique" => set (value.get? "objects")
  | some "Remove" => set (some (.array []))
  | some "Delete" => Fields.erase key document
  | some _ => document

/-- The document that an upsert inserts: what the query wants, overlaid with the update. -/
def upsertDocument (query update : Document) : Document :=
  let wanted := query.filter fun (key, value) => key.toList.head? ≠ some '$' && isLiteral value
  update.foldl (fun document (key, value) => resolveInto document key value) (Fields.ofPairs wanted)

end Docstore.Write
