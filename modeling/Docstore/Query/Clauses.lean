import Docstore.Query.Condition

/-!
# Clauses

What a part of a query becomes: conditions, or a failure. A failure keeps the values that were bound
before it, because the placeholders given to them stay given.
-/

namespace Docstore.Query

structure Failure where
  fault : Fault
  bound : List Value
deriving Repr

abbrev Clauses := Except Failure (List Condition)

namespace Clauses

def none : Clauses := .ok []

def one (c : Condition) : Clauses := .ok [c]

def test (t : Test) : Clauses := one (.test t)

/-- A failure before any value was bound. -/
def fault {α : Type} (f : Fault) : Except Failure α := .error ⟨f, []⟩

def fail {α : Type} (c : Cause) : Except Failure α := fault (.ofCause c)

/-- Goes on with a result. -/
def given {α : Type} (r : Result α) (k : α → Clauses) : Clauses :=
  match r with
  | .ok a => k a
  | .error f => fault f

/-- A result of what follows conditions that bind values. -/
def after {α β : Type} (vs : List Value) (r : Except Failure α) (f : α → β) : Except Failure β :=
  match r with
  | .ok a => .ok (f a)
  | .error e => .error { e with bound := vs ++ e.bound }

/-- First one part, then another. -/
def append (first second : Clauses) : Clauses :=
  match first with
  | .ok cs => after (Condition.values cs) second (cs ++ ·)
  | .error e => .error e

/-- All parts, one after the other, up to the first that fails. -/
def concat : List Clauses → Clauses
  | [] => none
  | c :: cs => append c (concat cs)

end Clauses

end Docstore.Query
