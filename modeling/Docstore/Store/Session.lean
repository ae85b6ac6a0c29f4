import Docstore.Store.Work

/-!
# Sessions

A session is a transaction on a connection of its own. It remembers the first failure inside it: the
transaction is then rolled back when it is committed. It ends once, whatever its end comes to.
-/

namespace Docstore

open Docstore.Engine (Operation Program)

structure Session where
  name : String
  /-- Whether a transaction is open on the connection, as far as is known. -/
  inTransaction : Bool
  /-- The first failure inside the session. -/
  failure : Option Error
  ending : Option Ending
  /-- The number of the savepoint taken last. -/
  savepoints : Nat
deriving DecidableEq, Repr

namespace Session

/-- A session whose transaction has begun. -/
def start (name : String) : Session := ⟨name, true, none, none, 0⟩

/-- Whether the connection can be used again once the session is dropped. -/
def isReusable (s : Session) : Bool := !s.inTransaction

/-- Remembers a failure, unless there was one before. -/
def record (s : Session) (failure : Error) : Session :=
  { s with failure := s.failure <|> some failure }

/-- Remembers how a piece of work came out. -/
def note {α : Type} (s : Session) : Result α → Session
  | .error (.error e) => s.record e
  | _ => s

/-- Carries out something while the session is open. -/
def whileOpen {α : Type} (s : Session) (p : Program (Result α × Session)) :
    Program (Result α × Session) :=
  match s.ending with
  | some ending => .done (.error (.ofCause (.transactionClosed ending)), s)
  | none => p

/-- Carries out work on objects. -/
def perform {α : Type} (s : Session) (work : Place → Work α) : Program (Result α × Session) :=
  s.whileOpen (((work (.session s.name)).run.run s.savepoints).bind fun (r, n) =>
    .done (r, { s with savepoints := n }.note r))

/-- Ends the transaction. The session has ended even where this fails. -/
def finish (s : Session) (c : Sql.TransactionControl) (ending : Ending) :
    Program (Result Unit × Session) :=
  (Operation.send (.session s.name) (.control c)).run.bind fun
    | .ok () => .done (.ok (), { s with ending := some ending, inTransaction := false })
    | .error f => .done (.error f, { s with ending := some ending })

/-- Commits what was done, or rolls it back and fails with the first failure. -/
def commit (s : Session) : Program (Result Unit × Session) :=
  s.whileOpen <|
    match s.failure with
    | none => s.finish .commit .committed
    | some failure =>
      ({ s with failure := none }.finish .rollback .aborted).bind fun (r, s) =>
        .done (r.bind fun () => .error (.error failure), s)

/-- Rolls back what was done. -/
def abort (s : Session) : Program (Result Unit × Session) :=
  s.whileOpen (s.finish .rollback .aborted)

end Session

/-- Begins a transaction on a connection of its own. -/
def Store.openSession (s : Store) (name : String) : Operation Session := do
  s.connect (.session name)
  Operation.send (.session name) (.control .start)
  return Session.start name

end Docstore
