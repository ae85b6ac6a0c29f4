import Docstore.Error
import Docstore.Sql.Catalog
import Docstore.Sql.Definition
import Docstore.Sql.HelperFunction
import Docstore.Sql.Transaction
import Docstore.Wire.Cell

/-!
# What is sent to the server

A command has no parameters and answers with nothing. A prepared statement is announced first, so
that its values are written for the types that the server expects, and answers with rows.
-/

namespace Docstore.Engine

open Docstore.Sql (Fragment Statement)
open Docstore.Wire (Argument DataType Row)

inductive Command
  | define (d : Sql.Definition)
  | control (c : Sql.TransactionControl)
  | scope (c : Sql.ScopeControl)
  | listen (channel : String)
  | install (f : Sql.HelperFunction)
deriving DecidableEq, Repr

def Command.text : Command → String
  | define d => d.text
  | control c => c.text
  | scope c => c.text
  | listen channel => Sql.render [.text "LISTEN ", .name channel]
  | install f => f.text

inductive Prepared
  | catalog (s : Sql.CatalogStatement)
  /-- A statement about the objects of a class. -/
  | objects (s : Statement)
  /-- The plan of a statement, which is carried out for it. -/
  | plan (s : Statement)
  | publish (channel payload : String)
deriving Repr

namespace Prepared

def fragment : Prepared → Fragment
  | catalog s => s.fragment
  | objects s => s.sql
  | plan s => .text "EXPLAIN (ANALYZE, FORMAT JSON) " :: s.sql
  | publish _ _ => [.text "SELECT pg_notify(", .placeholder 1, .text ", ", .placeholder 2, .text ")"]

def text (p : Prepared) : String := Sql.render p.fragment

def values : Prepared → List Value
  | catalog s => s.values
  | objects s => s.values
  | plan s => s.values
  | publish channel payload => [.string channel, .string payload]

/-- Writes a value; what is published is text whatever its types convert to. -/
def argument (p : Prepared) (type : DataType) (v : Value) : Result Argument :=
  match p, v with
  | publish _ _, .string s => Argument.ofText type s
  | _, v => Argument.ofValue type v

/-- The values written for the types that the server expects. -/
def arguments (p : Prepared) (types : List DataType) : Result (List Argument) :=
  if types.length = p.values.length then (types.zip p.values).mapM fun (t, v) => p.argument t v
  else Wire.refuse "the number of parameters differs from what the statement takes"

end Prepared

/-- What a prepared statement answers. -/
structure Answer where
  rows : List Row
  /-- How many rows were written. -/
  affected : Nat
deriving DecidableEq, Repr

/-- The connections, by what they are used for. -/
inductive Connection
  /-- One borrowed for a single operation. -/
  | pooled
  | session (name : String)
  /-- The one that announcements arrive on. -/
  | listener
deriving DecidableEq, Repr

end Docstore.Engine
