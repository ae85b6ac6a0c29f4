import Docstore.Value

/-!
# Statement templates

A `Template` is SQL with values in the places where they are bound. Numbering a template replaces
them, from left to right, by consecutive placeholders; its values then stand in the order of their
placeholders. What is written between quotes is kept apart from the rest of the text.
-/

namespace Docstore.Sql

inductive Part
  /-- SQL as it stands, without quotes and placeholders. -/
  | text (s : String)
  /-- A name in double quotes. -/
  | name (s : String)
  /-- A constant in single quotes. -/
  | literal (s : String)
  /-- The next value. -/
  | bind (v : Value)
  /-- The value bound last, once more. -/
  | again
deriving Repr

abbrev Template := List Part

/-- A template of nothing but SQL as it stands. -/
def words (s : String) : Template := [.text s]

/-- A template that is a name. -/
def named (s : String) : Template := [.name s]

/-- A template that is a value. -/
def value (v : Value) : Template := [.bind v]

/-- A piece of SQL whose placeholders are numbered. -/
inductive Token
  | text (s : String)
  | name (s : String)
  | literal (s : String)
  | placeholder (n : Nat)
deriving DecidableEq, Repr

abbrev Fragment := List Token

/-- The text between two quotes; a quote in it is written twice. -/
def quoted (q : Char) (s : String) : List Char :=
  q :: (s.toList.flatMap (fun c => if c = q then [q, q] else [c]) ++ [q])

def Token.chars : Token → List Char
  | text s => s.toList
  | name s => quoted '"' s
  | literal s => quoted '\'' s
  | placeholder n => '$' :: Nat.toDigits 10 n

/-- A fragment as it is sent. -/
def render (f : Fragment) : String := String.ofList (f.flatMap Token.chars)

/-- The placeholders of a fragment, as they are read. -/
def placeholders (f : Fragment) : List Nat :=
  f.filterMap fun
    | .placeholder n => some n
    | _ => none

namespace Template

/-- The values that a template binds. -/
def values (t : Template) : List Value :=
  t.filterMap fun
    | .bind v => some v
    | _ => none

/-- A template with `next` for its first placeholder. -/
def number (next : Nat) : Template → Fragment
  | [] => []
  | .text s :: rest => .text s :: number next rest
  | .name s :: rest => .name s :: number next rest
  | .literal s :: rest => .literal s :: number next rest
  | .bind _ :: rest => .placeholder next :: number (next + 1) rest
  | .again :: rest => .placeholder (next - 1) :: number next rest

/-- Templates one after the other, with a separator between them. -/
def join (sep : String) : List Template → Template
  | [] => []
  | [t] => t
  | t :: ts => t ++ words sep ++ join sep ts

end Template

/-! ## Bound values -/

def boundDouble (x : Double) : Template := value (.number x)

def boundText (s : String) : Template := value (.string s)

/-- A list that is bound as a document. -/
def boundList (items : List Json) : Template := value (.json (.array items))

/-- A point that is bound as two numbers. -/
def boundPoint (p : Point) : Template :=
  words "POINT(" ++ boundDouble p.x ++ words ", " ++ boundDouble p.y ++ words ")"

/-- Values between commas. -/
def listed (vs : List Value) : Template := Template.join ", " (vs.map value)

/-! ## Numbered text -/

/-- Fragments one after the other, with a separator between them. -/
def joinFragments (sep : String) : List Fragment → Fragment
  | [] => []
  | [f] => f
  | f :: fs => f ++ .text sep :: joinFragments sep fs

/-- Values bound to placeholders that are counted from a first one. -/
structure Bindings where
  first : Nat
  values : List Value
deriving Repr

namespace Bindings

def empty : Bindings := ⟨1, []⟩

/-- No values yet; placeholders are counted from one or later. -/
def startingAt? (first : Nat) : Option Bindings := if first = 0 then none else some ⟨first, []⟩

/-- The placeholder of the value that is bound next. -/
def next (b : Bindings) : Nat := b.first + b.values.length

def append (b : Bindings) (vs : List Value) : Bindings := { b with values := b.values ++ vs }

/-- Binds a value and gives its placeholder. -/
def push (b : Bindings) (v : Value) : Nat × Bindings := (b.next, b.append [v])

/-- Binds a template's values and numbers the template after them. -/
def write (b : Bindings) (t : Template) : Fragment × Bindings := (t.number b.next, b.append t.values)

/-- Writes templates one after the other. -/
def writeAll (b : Bindings) : List Template → List Fragment × Bindings
  | [] => ([], b)
  | t :: ts =>
    let (f, b) := b.write t
    let (fs, b) := writeAll b ts
    (f :: fs, b)

end Bindings

/-- A statement and the values of its placeholders. -/
structure Statement where
  sql : Fragment
  values : List Value
deriving Repr

namespace Statement

def text (s : Statement) : String := render s.sql

/-- The statement of a template on its own. -/
def ofTemplate (t : Template) : Statement := ⟨t.number 1, t.values⟩

end Statement

end Docstore.Sql
