import Docstore.Engine.Operation
import Docstore.Store.Announcement

/-!
# The store

What a store knows of itself: whether it listens to other stores, who is told of their changes, and
whether it was shut down. Every operation borrows a connection and gives it back.
-/

namespace Docstore

open Docstore.Engine (Connection Operation Program Request)

structure Store where
  /-- Whether it listens to other stores once it is set up. -/
  hooks : Bool
  /-- Whether there is a cache of schemas, to be cleared when other stores change them. -/
  caching : Bool
  /-- Who is told of changes. -/
  observer : Option String
  /-- The name under which it announces changes, from when it listens. -/
  sender : Option String
  closed : Bool
deriving DecidableEq, Repr

namespace Store

/-- A store that has not been set up. -/
def create (hooks caching : Bool) (observer : Option String) : Store :=
  ⟨hooks, caching, observer, none, false⟩

/-- Tells someone else of changes. -/
def watch (s : Store) (observer : String) : Store := { s with observer := some observer }

/-- Listens no more and gives out no connections. -/
def shutdown (s : Store) : Store := { s with closed := true }

/-! ## Connections -/

/-- The failure of a pool that could open no connection, with the failures behind it. -/
def unopened (f : EngineFault) : Cause :=
  let e : Error := .ofCause (.driver f)
  .connectionPool
    (("Error occurred while creating a new object: " ++ e.message) :: e.message :: e.sources)

/-- Takes a connection from the pool. -/
def connect (s : Store) (c : Connection) : Operation Unit :=
  if s.closed then throw (.ofCause (.connectionPool ["Pool has been closed"]))
  else ExceptT.mk ((Program.request (.connect c)).bind fun
    | .ok () => .done (.ok ())
    | .error f => .done (.error (.ofCause (unopened f))))

/-! ## Changes -/

/-- Announces the change of a class, or of all; nothing comes of a failure. -/
def announce (s : Store) (className : Option String) : Operation Unit :=
  match s.sender with
  | none => pure ()
  | some sender => do
    let _ ← Operation.result
      (Operation.query .listener (.publish schemaChannel (Announcement.text ⟨sender, className⟩)))

/-- What a store does when it learns of a change. -/
inductive Event
  | cacheCleared
  /-- The observer is told which class changed, if a single one did. -/
  | observed (observer : String) (className : Option String)
deriving DecidableEq, Repr

/-- What a change made by another store leads to. -/
def eventsOf (s : Store) (a : Announcement) : List Event :=
  (if s.caching then [.cacheCleared] else []) ++
    (s.observer.map fun o => Event.observed o a.className).toList

/-- Receives a notification on the listening connection. -/
def receive (s : Store) (n : Notification) : List Event :=
  match s.sender with
  | none => []
  | some own => if s.closed then [] else ((n.change? own).map s.eventsOf).getD []

end Store

end Docstore
