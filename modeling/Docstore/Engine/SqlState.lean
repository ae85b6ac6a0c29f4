import Docstore.Error
import Docstore.Text.Split

/-!
# States of the server

The states of server errors that are dealt with, and what an error says about a violated constraint.
-/

namespace Docstore

inductive SqlState
  | undefinedTable
  | undefinedColumn
  | duplicateTable
  | duplicateColumn
  | duplicateObject
  | uniqueViolation
deriving DecidableEq, Repr

def SqlState.code : SqlState → String
  | undefinedTable => "42P01"
  | undefinedColumn => "42703"
  | duplicateTable => "42P07"
  | duplicateColumn => "42701"
  | duplicateObject => "42710"
  | uniqueViolation => "23505"

namespace Error

def hasState (e : Error) (s : SqlState) : Bool := e.serverError?.any (·.sqlstate == s.code)

/-- A table or a column does not exist yet. -/
def isMissing (e : Error) : Bool := e.hasState .undefinedTable || e.hasState .undefinedColumn

def constraint? (e : Error) : Option String := e.serverError?.bind (·.constraint)

/-- An index is already there, or is being created at the same time. -/
def isExistingIndex (e : Error) (name : String) : Bool :=
  e.hasState .duplicateTable || e.hasState .duplicateObject ||
    (e.hasState .uniqueViolation &&
      e.constraint?.any fun c => c != name && (Text.after? "pg_" c).isSome)

end Error

/-- The text behind the first place where a mark stands. -/
def behindMark? (mark : List Char) : List Char → Option (List Char)
  | [] => if mark.isEmpty then some [] else none
  | c :: cs =>
    if mark.isPrefixOf (c :: cs) then some ((c :: cs).drop mark.length) else behindMark? mark cs

/-- The field that the name of a unique constraint stands for: the letters behind `unique_`. -/
def uniqueField? (constraint : String) : Option String :=
  ((behindMark? "unique_".toList constraint.toList).map (List.takeWhile Char.isAlpha)).bind fun cs =>
    if cs.isEmpty then none else some (String.ofList cs)

/-- A violated unique constraint as a duplicate value; other errors are left alone. -/
def Error.asDuplicate (e : Error) : Error :=
  if e.hasState .uniqueViolation then
    match e.constraint?.bind uniqueField? with
    | some field => .ofCause (.duplicateValueFor field)
    | none =>
      .ofCause (.duplicateValue "A duplicate value for a field with unique values was provided" none)
  else e

end Docstore
