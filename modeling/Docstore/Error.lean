/-!
# Errors

An error is a root cause and the contexts that were added to it. Its message shows the last context
first. Codes and kinds look through the contexts; the kinds that describe the outermost layer alone
are told apart by `Kind.isOutermost`.
-/

namespace Docstore

/-- A failure that the database server reports. -/
structure ServerError where
  sqlstate : String
  message : String
  constraint : Option String
deriving DecidableEq, Repr

/-- A failure of the engine or of the way to it. -/
inductive EngineFault
  | server (e : ServerError)
  /-- A failure on this side, described by its message and those of its own causes. -/
  | client (messages : List String)
deriving DecidableEq, Repr

/-- How a session ended. -/
inductive Ending
  | committed
  | aborted
deriving DecidableEq, Repr

inductive Cause
  | text (message : String)
  /-- An error that was taken over as it is, and is its own source. -/
  | foreign (message : String)
  /-- Stored text that does not read as what it should hold; what its reader says of that is not kept. -/
  | unreadable
  | driver (fault : EngineFault)
  | connectionPool (messages : List String)
  | invalidConnectionUrl (message : String)
  | duplicateValue (message : String) (field : Option String)
  | invalidQuery (message : String)
  | invalidNestedKey (message : String)
  | operationForbidden (message : String)
  | objectNotFound (message : String)
  | invalidJson (message : String)
  | internalServerError (message : String)
  | transactionClosed (ending : Ending)
  | schemaConflict (className field : String)
deriving DecidableEq, Repr

/-- What an error is called. -/
inductive Kind
  | driver
  | connectionPool
  | invalidConnectionUrl
  | transactionClosed
  | schemaConflict
  | duplicateValue
  | invalidQuery
  | invalidNestedKey
  | operationForbidden
  | objectNotFound
  | invalidJson
  | internalServerError
deriving DecidableEq, Repr

namespace EngineFault

/-- The message of the fault and of everything behind it. -/
def messages : EngineFault → List String
  | server e => ["db error", "ERROR: " ++ e.message]
  | client messages => messages

end EngineFault

def Ending.word : Ending → String
  | committed => "committed"
  | aborted => "aborted"

/-- The kinds that only the outermost layer of an error can give it. -/
def Kind.isOutermost : Kind → Bool
  | driver | connectionPool | invalidConnectionUrl | transactionClosed | schemaConflict => true
  | _ => false

/-- All kinds, in the order in which an error is asked for them. -/
def Kind.all : List Kind :=
  [.driver, .connectionPool, .invalidConnectionUrl, .transactionClosed, .schemaConflict,
    .duplicateValue, .invalidQuery, .invalidNestedKey, .operationForbidden, .objectNotFound,
    .invalidJson, .internalServerError]

/-- The number of a kind in the document API. -/
def Kind.code? : Kind → Option Nat
  | duplicateValue => some 137
  | invalidQuery => some 102
  | invalidNestedKey => some 121
  | operationForbidden => some 119
  | objectNotFound => some 101
  | invalidJson => some 107
  | internalServerError => some 1
  | _ => none

namespace Cause

def kind? : Cause → Option Kind
  | text _ | foreign _ | unreadable => none
  | driver _ => some .driver
  | connectionPool _ => some .connectionPool
  | invalidConnectionUrl _ => some .invalidConnectionUrl
  | duplicateValue _ _ => some .duplicateValue
  | invalidQuery _ => some .invalidQuery
  | invalidNestedKey _ => some .invalidNestedKey
  | operationForbidden _ => some .operationForbidden
  | objectNotFound _ => some .objectNotFound
  | invalidJson _ => some .invalidJson
  | internalServerError _ => some .internalServerError
  | transactionClosed _ => some .transactionClosed
  | schemaConflict _ _ => some .schemaConflict

def message : Cause → String
  | text message | foreign message => message
  | unreadable => ""
  | driver fault => ": ".intercalate fault.messages
  | connectionPool messages => ": ".intercalate messages
  | invalidConnectionUrl message => "invalid connection URL: " ++ message
  | duplicateValue message _ => message
  | invalidQuery message | invalidNestedKey message | operationForbidden message => message
  | objectNotFound message | invalidJson message | internalServerError message => message
  | transactionClosed ending => "transactional session already " ++ ending.word
  | schemaConflict className field =>
    "schema conflict: field \x60" ++ field ++ "\x60 of class \x60" ++ className ++
      "\x60 was added concurrently with a different type"

/-- What a cause shows of the errors behind it. -/
def sources : Cause → List String
  | driver fault => ": ".intercalate fault.messages :: fault.messages
  | connectionPool messages => ": ".intercalate messages :: messages
  | foreign message => [message]
  | _ => []

end Cause

/-- A unique violation on a field that is known. -/
def Cause.duplicateValueFor (field : String) : Cause :=
  .duplicateValue "A duplicate value for a field with unique values was provided" (some field)

/-- The layers of an error, from the context added last to the root cause. -/
structure Error where
  outer : Cause
  causes : List Cause
deriving DecidableEq, Repr

namespace Error

def ofCause (c : Cause) : Error := ⟨c, []⟩

instance : Coe Cause Error := ⟨ofCause⟩

def layers (e : Error) : List Cause := e.outer :: e.causes

/-- Adds a context. -/
def within (e : Error) (context : Cause) : Error := ⟨context, e.layers⟩

/-- Adds an error as a context. One that already stands on a cause of its own is no context. -/
def context? (e context : Error) : Option Error :=
  if context.causes.isEmpty then some (e.within context.outer) else none

def message (e : Error) : String := ": ".intercalate (e.layers.map Cause.message)

/-- The code of the outermost layer that has one, or that of an internal error. -/
def code (e : Error) : Nat :=
  (e.layers.findSome? fun c => c.kind?.bind Kind.code?).getD 1

/-- Whether an error is of a kind. -/
def is (e : Error) (k : Kind) : Bool :=
  if k.isOutermost then e.outer.kind? == some k else e.layers.any (·.kind? == some k)

/-- The first kind that an error is of. -/
def kind? (e : Error) : Option Kind := Kind.all.find? e.is

/-- The field whose unique constraint was violated. -/
def duplicatedField? (e : Error) : Option String :=
  e.layers.findSome? fun
    | .duplicateValue _ field => field
    | _ => none

/-- The fault of the outermost layer that holds one. -/
def engineFault? (e : Error) : Option EngineFault :=
  e.layers.findSome? fun
    | .driver fault => some fault
    | _ => none

/-- The outermost report of the server. -/
def serverError? (e : Error) : Option ServerError :=
  match e.engineFault? with
  | some (.server s) => some s
  | _ => none

def sources (e : Error) : List String := e.outer.sources

end Error

/-- How a computation can end early. -/
inductive Fault
  | error (e : Error)
  /-- Arithmetic left its range, or a rule of use was broken; nothing can be answered. -/
  | crash
deriving DecidableEq, Repr

namespace Fault

instance : Coe Error Fault := ⟨Fault.error⟩

def ofCause (c : Cause) : Fault := .error (.ofCause c)

end Fault

/-- Results of operations on documents. -/
abbrev Result (α : Type) := Except Fault α

/-- Fails with a cause. -/
def fail {α : Type} (c : Cause) : Result α := .error (.ofCause c)

end Docstore
