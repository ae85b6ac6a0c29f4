import Docstore.Store.Classes
import Docstore.Store.Columns

/-!
# Starting

Before a store is used, the catalog and the classes that are declared beforehand are created, the
store begins to listen if it is to, and the helper functions are installed.
-/

namespace Docstore

open Docstore.Engine (Operation Program)

namespace Store

/-- Creates a class, or adds what it is missing. -/
def ensureClass (s : Store) (schema : Schema) : Operation Unit := do
  match ← Operation.result (s.createClass schema) with
  | .error (.error e) => if !e.is .duplicateValue then throw (.error e)
  | .error .crash => throw .crash
  | .ok _ => pure ()
  s.upgrade schema

/-- Listens to other stores, once and if this one is to. -/
def listen (s : Store) (sender : String) : Operation Store :=
  if s.hooks && s.sender.isNone then do
    Operation.ask (.connect .listener)
    Operation.send .listener (.listen schemaChannel)
    return { s with sender := some sender }
  else pure s

/-- What says which function could not be installed. -/
def notInstalled (f : Sql.HelperFunction) : Cause :=
  .text ("failed to install SQL function \x60" ++ f.name ++ "\x60")

def installFunctions (s : Store) : Operation Unit := do
  s.connect .pooled
  Operation.transaction (Sql.HelperFunction.all.forM fun f =>
    Operation.mapError (·.within (notInstalled f)) (Operation.send .pooled (.install f)))

/-- What is done before a store listens. -/
def createDeclared (s : Store) (schemas : List Schema) : Operation Unit := do
  s.connect .pooled
  Catalog.ensure
  schemas.forM s.ensureClass

/-- Prepares the database. Once the store listens it goes on to, even where a later step fails. -/
def setUp (s : Store) (sender : String) (schemas : List Schema) :
    Program (Result Unit × Store) :=
  (do s.createDeclared schemas; s.listen sender : Operation Store).run.bind fun
    | .error f => .done (.error f, s)
    | .ok s => s.installFunctions.run.bind fun r => .done (r, s)

end Store

end Docstore
