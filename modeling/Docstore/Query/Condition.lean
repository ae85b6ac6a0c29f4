import Docstore.Query.Key

/-!
# Conditions

The boolean SQL that queries become, as a tree. A list of conditions is their conjunction; the empty
one is true. The templates put parentheses around every group, so that a conjunction can stand in a
group as it is.
-/

namespace Docstore.Query

open Docstore.Sql (words named value boundDouble boundText boundList boundPoint listed)

inductive Comparison
  | greater
  | less
  | greaterOrEqual
  | lessOrEqual
deriving DecidableEq, Repr

/-- The sign of a comparison in SQL. -/
def Comparison.sql : Comparison → String
  | greater => " > "
  | less => " < "
  | greaterOrEqual => " >= "
  | lessOrEqual => " <= "

/-- A point and the column of points whose distance from it is asked for. -/
structure Near where
  field : String
  point : Point
deriving Repr

/-- The search words of a full-text search, and where they are looked for. -/
structure TextSearch where
  field : String
  language : String
  term : String
deriving DecidableEq, Repr

/-- A condition without parts. -/
inductive Test
  | constant (truth : Bool)
  /-- Membership in the empty list, and its opposite. -/
  | inEmpty (negated : Bool)
  | isNull (x : Operand)
  | isNotNull (x : Operand)
  | equals (x : Operand) (v : Value)
  /-- Equality with a value that is sent as text. -/
  | equalsText (x : Operand) (v : Value)
  /-- Equality but for letter case. -/
  | equalsFolded (x : Operand) (v : Value)
  | differs (x : Operand) (v : Value)
  | compares (x : Operand) (c : Comparison) (v : Value)
  | matchesPattern (x : Operand) (ignoreCase : Bool) (pattern : String)
  | isIn (x : Operand) (vs : List Value)
  | isNotIn (x : Operand) (vs : List Value)
  /-- A native list shares an item with the values. -/
  | overlaps (x : Operand) (vs : List Value)
  /-- A document at a place contains the items of a list. -/
  | containsJson (x : Operand) (items : List Json)
  /-- A list has one of the items. -/
  | hasAny (x : Operand) (items : List Json)
  /-- A list has all of the items. -/
  | hasAll (x : Operand) (items : List Json)
  /-- A list has a text like each of the patterns. -/
  | hasAllLike (x : Operand) (patterns : List Json)
  /-- A list has no other items. -/
  | isContainedBy (x : Operand) (items : List Json)
  | isPoint (x : Operand) (p : Point)
  | isPolygon (x : Operand) (ring : String)
  /-- A point lies in a box or a polygon. -/
  | isInside (field shape literal : String)
  /-- A polygon covers a point. -/
  | covers (field : String) (literal : String)
  | matchesText (search : TextSearch)
  /-- A point is no further away than some meters; the rows may come in the order of the distance. -/
  | isWithin (near : Near) (meters : Double) (ordered : Bool)
  /-- There is a distance, by which the rows come in order. -/
  | hasDistance (near : Near)
deriving Repr

/-- The distance in meters between a column's point and another. -/
def Near.distance (n : Near) : Sql.Template :=
  words "ST_DistanceSphere(" ++ named n.field ++ words "::geometry, " ++ boundPoint n.point ++
    words "::geometry)"

namespace TextSearch

def configuration (s : TextSearch) : Sql.Template :=
  boundText s.language ++ words "::text::regconfig, "

/-- The words of the column. -/
def document (s : TextSearch) : Sql.Template :=
  words "to_tsvector(" ++ s.configuration ++ (Operand.text s.field).template ++ words ")"

/-- The words that are searched. -/
def query (s : TextSearch) : Sql.Template :=
  words "to_tsquery(" ++ s.configuration ++ boundText s.term ++ words ")"

/-- How well a row fits, as the column `score`. -/
def rank (s : TextSearch) : Sql.Template :=
  words "ts_rank_cd(" ++ s.document ++ words ", " ++ s.query ++ words ", 32) AS " ++ named "score"

end TextSearch

namespace Test

def template : Test → Sql.Template
  | constant true => words "TRUE"
  | constant false => words "FALSE"
  | inEmpty false => words "1 = 2"
  | inEmpty true => words "1 = 1"
  | isNull x => x.template ++ words " IS NULL"
  | isNotNull x => x.template ++ words " IS NOT NULL"
  | equals x v => x.template ++ words " = " ++ value v
  | equalsText x v => x.template ++ words " = " ++ value v ++ words "::text"
  | equalsFolded x v => words "LOWER(" ++ x.template ++ words ") = LOWER(" ++ value v ++ words ")"
  | differs x v => x.template ++ words " <> " ++ value v
  | compares x c v => x.template ++ words c.sql ++ value v
  | matchesPattern x ignoreCase pattern =>
    x.template ++ words (if ignoreCase then " ~* " else " ~ ") ++ boundText pattern
  | isIn x vs => x.template ++ words " IN (" ++ listed vs ++ words ")"
  | isNotIn x vs => x.template ++ words " NOT IN (" ++ listed vs ++ words ")"
  | overlaps x vs => x.template ++ words " && ARRAY[" ++ listed vs ++ words "]::text[]"
  | containsJson x vs => words "(" ++ x.template ++ words ")::jsonb @> " ++ boundList vs ++ words "::jsonb"
  | hasAny x vs => words "array_contains(" ++ x.template ++ words ", " ++ boundList vs ++ words ")"
  | hasAll x vs =>
    words "array_contains_all(" ++ x.template ++ words ", " ++ boundList vs ++ words "::jsonb)"
  | hasAllLike x patterns =>
    words "array_contains_all_regex(" ++ x.template ++ words ", " ++ boundList patterns ++
      words "::jsonb)"
  | isContainedBy x vs => x.template ++ words " <@ " ++ boundList vs ++ words "::jsonb"
  | isPoint x p => x.template ++ words " ~= " ++ boundPoint p
  | isPolygon x ring => x.template ++ words " ~= " ++ boundText ring ++ words "::text::polygon"
  | isInside field shape literal =>
    named field ++ words "::point <@ " ++ boundText literal ++ words ("::text::" ++ shape)
  | covers field literal =>
    named field ++ words "::polygon @> " ++ boundText literal ++ words "::text::point"
  | matchesText s => s.document ++ words " @@ " ++ s.query
  | isWithin near meters _ => near.distance ++ words " <= " ++ boundDouble meters
  | hasDistance near => near.distance ++ words " IS NOT NULL"

/-- The distance that rows are ordered by. -/
def near? : Test → Option Near
  | isWithin near _ true => some near
  | hasDistance near => some near
  | _ => none

def search? : Test → Option TextSearch
  | matchesText s => some s
  | _ => none

end Test

inductive Condition
  | test (t : Test)
  | negate (c : Condition)
  /-- One of the conjunctions holds. -/
  | anyOf (alternatives : List (List Condition))
  /-- All of the conjunctions hold. -/
  | allOf (parts : List (List Condition))
deriving Repr

namespace Condition

mutual

def template : Condition → Sql.Template
  | test t => t.template
  | negate c => words "NOT " ++ c.template
  | anyOf alternatives => words "(" ++ templates " OR " alternatives ++ words ")"
  | allOf parts => words "(" ++ templates " AND " parts ++ words ")"

/-- A conjunction, nothing if it is empty. -/
def conjunction : List Condition → Sql.Template
  | [] => []
  | c :: rest =>
    match rest with
    | [] => c.template
    | _ :: _ => c.template ++ words " AND " ++ conjunction rest

/-- Conjunctions with a separator between them; an empty one is true. -/
def templates (sep : String) : List (List Condition) → Sql.Template
  | [] => []
  | cs :: rest =>
    let member := match cs with
      | [] => words "TRUE"
      | _ :: _ => conjunction cs
    match rest with
    | [] => member
    | _ :: _ => member ++ words sep ++ templates sep rest

end

mutual

/-- The tests of a condition, as they are read. -/
def tests : Condition → List Test
  | test t => [t]
  | negate c => c.tests
  | anyOf alternatives => testsOfMembers alternatives
  | allOf parts => testsOfMembers parts

def testsOfAll : List Condition → List Test
  | [] => []
  | c :: rest => c.tests ++ testsOfAll rest

def testsOfMembers : List (List Condition) → List Test
  | [] => []
  | cs :: rest => testsOfAll cs ++ testsOfMembers rest

end

/-- The values that conditions bind. -/
def values (cs : List Condition) : List Value := (conjunction cs).values

/-- The distances to order by, each with its own number of values bound before it. -/
def nears : Nat → List Test → List (Nat × Near)
  | _, [] => []
  | bound, t :: rest =>
    (t.near?.map (bound, ·)).toList ++ nears (bound + t.template.values.length) rest

/-- An ascending order by a distance whose values were bound from the given placeholder on. -/
def orderItem (next : Nat) (near : Near) : Sql.Fragment :=
  near.distance.number next ++ [.text " ASC"]

/-- The orders that conditions numbered from `first` ask for. -/
def orders (first : Nat) (cs : List Condition) : List Sql.Fragment :=
  (nears 0 (testsOfAll cs)).map fun (bound, near) => orderItem (first + bound) near

/-- The full-text search that conditions end with. -/
def search? (cs : List Condition) : Option TextSearch :=
  ((testsOfAll cs).filterMap Test.search?).getLast?

end Condition

end Docstore.Query
