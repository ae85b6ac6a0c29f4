import Docstore.Engine.Program
import Docstore.Engine.SqlState

/-!
# Operations

An operation is a program that may fail. An error of the server ends it unless it is caught; a
transaction that is left early is rolled back, whatever comes of that.
-/

namespace Docstore.Engine

/-- Conversations that end with a result. -/
abbrev Operation := ExceptT Fault Program

namespace Operation

/-- One request; its failure is an error of the driver. -/
def ask (r : Request) : Operation r.Success :=
  ExceptT.mk ((Program.request r).bind fun
    | .ok a => .done (.ok a)
    | .error f => .done (.error (.ofCause (.driver f))))

/-- One request of which nothing is awaited. -/
def tell (r : Request) : Program Unit := (Program.request r).bind fun _ => .done ()

def send (c : Connection) (command : Command) : Operation Unit := ask (.send c command)

/-- Announces a statement, writes its values for the types that are expected and carries it out. -/
def query (c : Connection) (p : Prepared) : Operation Answer := do
  let types ← ask (.prepare c p)
  let arguments ← p.arguments types
  ask (.execute c p arguments)

/-- The result of an operation, failures among them. -/
def result {α : Type} (op : Operation α) : Operation (Result α) :=
  ExceptT.mk (op.run.bind fun r => .done (.ok r))

/-- An operation with its errors replaced. -/
def mapError {α : Type} (f : Error → Error) (op : Operation α) : Operation α :=
  ExceptT.mk (op.run.bind fun
    | .error (.error e) => .done (.error (.error (f e)))
    | r => .done r)

/-- A value in place of some errors. -/
def recover {α : Type} (accepts : Error → Bool) (value : α) (op : Operation α) : Operation α :=
  ExceptT.mk (op.run.bind fun
    | .error (.error e) => .done (if accepts e then .ok value else .error (.error e))
    | r => .done r)

/-- Carries out something more when an operation fails; it fails all the same. -/
def onFailure {α : Type} (cleanup : Program Unit) (op : Operation α) : Operation α :=
  ExceptT.mk (op.run.bind fun
    | .error f => cleanup.bind fun _ => .done (.error f)
    | .ok a => .done (.ok a))

/-! ## Transactions -/

def scope (c : Sql.ScopeControl) : Operation Unit := send .pooled (.scope c)

/-- Undoes what a scope that is left early has done. -/
def undo (c : Sql.ScopeControl) : Program Unit := tell (.send .pooled (.scope c))

/-- Carries out an operation in a transaction of its own. -/
def transaction {α : Type} (body : Operation α) : Operation α := do
  let a ← onFailure (undo .rollback) (do scope .start; body)
  scope .commit
  return a

/--
Carries out a command behind a savepoint. Errors that are accepted are answered, and what the
command has done is undone; so it is for other errors, but those are not caught.
-/
def attempt (savepoint : String) (command : Command) (accepts : Error → Bool) :
    Operation (Option Error) := do
  scope (.savepoint savepoint)
  match ← result (send .pooled command) with
  | .ok () =>
    scope (.release savepoint)
    return none
  | .error f =>
    match f with
    | .error e =>
      if accepts e then
        scope (.rollbackTo savepoint)
        return some e
      else
        undo (.rollbackTo savepoint)
        throw f
    | .crash => throw f

end Operation

end Docstore.Engine
