import Docstore.Store.Basic

/-!
# Work on objects

Work on objects runs on a connection from the pool or in a session. What it may fail with and go on
is the same in both places; a session keeps its transaction usable by a savepoint before each such
query, and counts its savepoints over its whole life.
-/

namespace Docstore

open Docstore.Engine (Answer Connection Operation Prepared Program)

/-- Where work runs. -/
inductive Place
  | pooled
  | session (name : String)
deriving DecidableEq, Repr

def Place.connection : Place → Connection
  | pooled => .pooled
  | session name => .session name

/-- A program that may fail, and that counts savepoints. -/
abbrev Work := ExceptT Fault (StateT Nat Program)

namespace Work

/-- An operation that takes no savepoint. -/
def ofOperation {α : Type} (op : Operation α) : Work α :=
  ExceptT.mk fun n => op.run.bind fun r => .done (r, n)

/-- The number of the next savepoint. -/
def nextSavepoint : Work Nat := ExceptT.mk fun n => .done (.ok (n + 1), n + 1)

/-- A query whose failure is a failure of the work. -/
def query (place : Place) (p : Prepared) : Work Answer :=
  ofOperation (Operation.query place.connection p)

/-- A query behind a savepoint; when an error is accepted, the transaction goes on from there. -/
def guarded (session : String) (savepoint : Nat) (accepts : Error → Bool) (p : Prepared) :
    Operation (Option Answer) := do
  let control (c : Sql.TransactionControl) := Operation.send (.session session) (.control c)
  control (.savepoint savepoint)
  match ← Operation.result (Operation.query (.session session) p) with
  | .ok answer =>
    control (.release savepoint)
    return some answer
  | .error (.error e) =>
    if accepts e then
      control (.rollbackTo savepoint)
      return none
    else throw (.error e)
  | .error .crash => throw .crash

/-- A query that finds nothing where it fails with an error that is accepted. -/
def recovering (place : Place) (accepts : Error → Bool) (p : Prepared) : Work (Option Answer) :=
  match place with
  | .pooled =>
    ofOperation (Operation.recover accepts none (some <$> Operation.query .pooled p))
  | .session name => do
    let savepoint ← nextSavepoint
    ofOperation (guarded name savepoint accepts p)

end Work

/-- Carries out work on a connection from the pool. -/
def Store.perform {α : Type} (s : Store) (work : Place → Work α) : Operation α := do
  s.connect .pooled
  ExceptT.mk (((work .pooled).run.run 0).bind fun (r, _) => .done r)

end Docstore
