import Docstore.Engine.SqlState
import Docstore.Proofs.Engine.Courses
import Docstore.Sql.Definition
import Docstore.Store.Catalog
import Mathlib.Data.List.Forall2
import Mathlib.Logic.Function.Basic

/-!
# Databases

The tables of a database with the types of their columns, the rows of the catalog, and what definitions and catalog
statements do to them. A name stands for itself: it is taken to be one that a server keeps whole. The objects that
are in a table do not matter here.
-/

namespace Docstore

open Docstore.Sql (CatalogStatement ColumnDefinition DefinedType Definition)
open Docstore.Wire (Row)

/-! ## Documents in rows -/

namespace Json

/--
What is read back of a document that was stored: the members of objects in any order and once each, and numbers in
any form.
-/
inductive Kept : Json → Json → Prop
  | null : Kept .null .null
  | bool (b : Bool) : Kept (.bool b) (.bool b)
  | number {n m : Number} (h : (number n).double? = (number m).double?) : Kept (.number n) (.number m)
  | string (s : String) : Kept (.string s) (.string s)
  | array {xs ys : List Json} (h : List.Forall₂ Kept xs ys) : Kept (.array xs) (.array ys)
  | object {xs ys : Document} (hnodup : (Fields.names ys).Nodup)
      (h : ∀ key, Option.Rel Kept (Fields.get? key xs) (Fields.get? key ys)) : Kept (.object xs) (.object ys)

/-- Sets a value at a place inside objects, unless the way to the place is missing. -/
def setAt (value : Json) : List String → Json → Json
  | [key], .object fields => .object (Fields.insert key value fields)
  | key :: path, .object fields =>
    match Fields.get? key fields with
    | some v => .object (Fields.insert key (setAt value path v) fields)
    | none => .object fields
  | _, v => v

/-- An object without some of its keys. -/
def without (names : List String) : Json → Json
  | .object fields => .object (fields.filter fun e => e.1 ∉ names)
  | v => v

end Json

/-- A row that begins with what is kept of a document. -/
def Wire.Row.Shows (r : Row) (doc : Json) : Prop := ∃ v, r.json 0 = .ok v ∧ doc.Kept v

/-! ## Databases -/

namespace Sql

/-- The types of a table's columns. -/
abbrev Columns := String → Option DefinedType

/-- A column more, unless there is one of its name. -/
def Columns.adding (columns : Columns) (column : ColumnDefinition) : Columns :=
  fun name => (columns name).or (if name = column.name then some column.type else none)

/-- What a statement leads to: a database or a refusal, some of which say what is wrong. -/
abbrev Outcome (α : Type) := Except (Option SqlState) α

structure Database where
  tables : String → Option Columns
  /-- The schemas in the catalog, by their classes. -/
  rows : String → Option Json

/-- The names that every table has for itself, so that no column can be given them. -/
def systemColumns : List String := ["tableoid", "cmax", "xmax", "cmin", "xmin", "ctid"]

namespace Database

def empty : Database := ⟨fun _ => none, fun _ => none⟩

def setTable (db : Database) (name : String) (columns : Columns) : Database :=
  { db with tables := Function.update db.tables name (some columns) }

def setRow (db : Database) (className : String) (doc : Json) : Database :=
  { db with rows := Function.update db.rows className (some doc) }

def dropRow (db : Database) (className : String) : Database :=
  { db with rows := Function.update db.rows className none }

/-- The rows of a table are gone; those of the catalog are all that is known of rows. -/
def clear (db : Database) (table : String) : Database :=
  if table = Schema.catalogTable then { db with rows := fun _ => none } else db

def drop (db : Database) (table : String) : Database :=
  { db.clear table with tables := Function.update db.tables table none }

section Lookups

variable (db : Database) (name other : String)

@[simp] theorem setTable_tables (columns : Columns) :
    (db.setTable name columns).tables other = if other = name then some columns else db.tables other := by
  simp [setTable, Function.update_apply]

@[simp] theorem setTable_rows (columns : Columns) : (db.setTable name columns).rows = db.rows := rfl

@[simp] theorem setRow_rows (doc : Json) :
    (db.setRow name doc).rows other = if other = name then some doc else db.rows other := by
  simp [setRow, Function.update_apply]

@[simp] theorem setRow_tables (doc : Json) : (db.setRow name doc).tables = db.tables := rfl

@[simp] theorem dropRow_rows : (db.dropRow name).rows other = if other = name then none else db.rows other := by
  simp [dropRow, Function.update_apply]

@[simp] theorem dropRow_tables : (db.dropRow name).tables = db.tables := rfl

@[simp] theorem drop_tables : (db.drop name).tables other = if other = name then none else db.tables other := by
  simp [drop, Function.update_apply]

@[simp] theorem drop_rows :
    (db.drop name).rows other = if name = Schema.catalogTable then none else db.rows other := by
  rw [drop, clear]
  split <;> rfl

theorem setTable_comm {db : Database} {name other : String} (h : name ≠ other) (columns columns' : Columns) :
    (db.setTable name columns).setTable other columns' = (db.setTable other columns').setTable name columns := by
  rw [setTable, setTable, setTable, setTable, Function.update_comm h]

theorem setTable_self {db : Database} {name : String} {columns : Columns} (h : db.tables name = some columns) :
    db.setTable name columns = db := by
  rw [setTable, ← h, Function.update_eq_self]

end Lookups

/-- The table, or the refusal of a statement about a table that is missing. -/
def table (db : Database) (name : String) : Outcome Columns :=
  match db.tables name with
  | some columns => .ok columns
  | none => .error (some .undefinedTable)

/-- The columns of a new table. -/
def columnsOf (columns : List ColumnDefinition) : Columns :=
  fun name => Fields.get? name (columns.map fun c => (c.name, c.type))

/-- Whether a table can have columns. -/
def CanHave (columns : List ColumnDefinition) : Prop :=
  (columns.map (·.name)).Nodup ∧ ∀ c ∈ columns, c.name ∉ systemColumns

instance (columns : List ColumnDefinition) : Decidable (CanHave columns) := inferInstanceAs (Decidable (_ ∧ _))

/-- What a definition does to a database. -/
def define (db : Database) : Definition → Outcome Database
  | .createTable name columns _ =>
    if (db.tables name).isSome then .ok db
    else if CanHave columns then .ok (db.setTable name (columnsOf columns))
    else .error (some .duplicateColumn)
  | .addColumn table column => (db.table table).bind fun columns =>
    -- The names of system columns are refused even where a column is added unless it exists.
    if column.name ∈ systemColumns then .error (some .duplicateColumn)
    else .ok (db.setTable table (columns.adding column))
  | .dropColumns table names => (db.table table).bind fun columns =>
    .ok (db.setTable table fun name => if name ∈ names then none else columns name)
  | .dropTable name => .ok (db.drop name)
  | .truncate name => (db.table name).bind fun _ => .ok (db.clear name)
  | .createIndex _ table keys _ => (db.table table).bind fun columns =>
    if keys.all fun key => (columns key.name).isSome then .ok db else .error (some .undefinedColumn)
  | .dropIndex _ => .ok db

section Definitions

variable {db db' : Database} {name : String}

theorem bind_table_eq_ok {f : Columns → Outcome Database} :
    (db.table name).bind f = .ok db' ↔ ∃ columns, db.tables name = some columns ∧ f columns = .ok db' := by
  rw [table]
  cases db.tables name with
  | none => exact ⟨nofun, nofun⟩
  | some columns => exact ⟨fun h => ⟨columns, rfl, h⟩, fun ⟨_, hcolumns, h⟩ => Option.some.inj hcolumns ▸ h⟩

theorem define_createTable {columns : List ColumnDefinition} {keys : List String} :
    db.define (.createTable name columns keys) = .ok db' ↔ (db.tables name).isSome ∧ db' = db ∨
      db.tables name = none ∧ CanHave columns ∧ db' = db.setTable name (columnsOf columns) := by
  rw [define]
  cases hname : db.tables name with
  | some columns' => simp [eq_comm]
  | none => by_cases hcan : CanHave columns <;> simp [hcan, eq_comm]

theorem define_addColumn {column : ColumnDefinition} : db.define (.addColumn name column) = .ok db' ↔
    ∃ columns, db.tables name = some columns ∧ column.name ∉ systemColumns ∧
      db' = db.setTable name (columns.adding column) := by
  rw [define, bind_table_eq_ok]
  constructor
  · rintro ⟨columns, hcolumns, h⟩
    split at h
    next => cases h
    next hsystem =>
      cases h
      exact ⟨columns, hcolumns, hsystem, rfl⟩
  · rintro ⟨columns, hcolumns, hsystem, rfl⟩
    exact ⟨columns, hcolumns, if_neg hsystem⟩

/-- A column is refused for a missing table alone, under any name that is not taken by the system. -/
theorem refused_addColumn {column : ColumnDefinition} {state : Option SqlState}
    (hsystem : column.name ∉ systemColumns) (h : db.define (.addColumn name column) = .error state) :
    db.tables name = none ∧ state = some .undefinedTable := by
  cases htable : db.tables name with
  | none =>
      rw [define, table, htable] at h
      cases h
      exact ⟨rfl, rfl⟩
  | some columns =>
      rw [define_addColumn.mpr ⟨columns, htable, hsystem, rfl⟩] at h
      cases h

end Definitions

/-- Changes the row of a class, if there is one. -/
def changeRow (db : Database) (className : String) (change : Json → Json) : Database :=
  match db.rows className with
  | some doc => db.setRow className (change doc)
  | none => db

theorem changeRow_of_row {db : Database} {className : String} {doc : Json} (h : db.rows className = some doc)
    (change : Json → Json) : db.changeRow className change = db.setRow className (change doc) := by
  rw [changeRow, h]

/-- Whether a statement is about the catalog's own table. -/
def needsCatalog : CatalogStatement → Bool
  | .columnsOf _ | .tablesAmong _ | .tableExists _ | .indexesOf _ => false
  | _ => true

/-- What is refused where there is no catalog. -/
def prepare (db : Database) (s : CatalogStatement) : Outcome Unit :=
  if needsCatalog s then (db.table Schema.catalogTable).map fun _ => () else .ok ()

/-- The row without some fields; a row has no other fields than those in its object of fields. -/
def removeFields (fields : List String) (doc : Json) : Json :=
  match doc.get? "fields" with
  | some declared => Json.setAt (declared.without fields) ["fields"] doc
  | none => doc

/-- What a catalog statement does to a database with a catalog. -/
def change (db : Database) : CatalogStatement → Outcome Database
  | .addRow className schema ignoreConflict =>
    if (db.rows className).isNone then .ok (db.setRow className schema)
    else if ignoreConflict then .ok db
    else .error (some .uniqueViolation)
  | .setEntry className path value => .ok (db.changeRow className (Json.setAt value path))
  | .removeFields className fields => .ok (db.changeRow className (removeFields fields))
  | .removeRow className => .ok (db.dropRow className)
  | _ => .ok db

def execute (db : Database) (q : CatalogStatement) : Outcome Database := (db.prepare q).bind fun _ => db.change q

section Reading

variable {db db' : Database} {q : CatalogStatement} {state : Option SqlState}

theorem missing_of_prepare {db'' : Database} (h : (db.prepare q).map (fun _ => db'') = .error state) :
    db.tables Schema.catalogTable = none := by
  rw [prepare] at h
  split at h
  · cases hcatalog : db.tables Schema.catalogTable with
    | none => rfl
    | some columns =>
        rw [table, hcatalog] at h
        cases h
  · cases h

theorem eq_of_prepare (h : (db.prepare q).map (fun _ => db) = .ok db') : db' = db := by
  cases hprepare : db.prepare q with
  | ok u =>
      rw [hprepare] at h
      cases h
      rfl
  | error state =>
      rw [hprepare] at h
      cases h

theorem execute_eq_ok (h : db.execute q = .ok db') :
    db.change q = .ok db' ∧ (needsCatalog q = true → (db.tables Schema.catalogTable).isSome) := by
  cases hprepare : db.prepare q with
  | error state =>
      rw [execute, hprepare] at h
      cases h
  | ok u =>
      rw [execute, hprepare] at h
      refine ⟨h, fun hneeds => ?_⟩
      rw [prepare, if_pos hneeds, table] at hprepare
      cases hcatalog : db.tables Schema.catalogTable with
      | none =>
          rw [hcatalog] at hprepare
          cases hprepare
      | some columns => rfl

theorem execute_of_catalog (hcatalog : (db.tables Schema.catalogTable).isSome) : db.execute q = db.change q := by
  obtain ⟨columns, hcolumns⟩ := Option.isSome_iff_exists.mp hcatalog
  rw [execute, prepare, table, hcolumns]
  split <;> rfl

theorem execute_of_reading (hq : q.writes = false) : db.execute q = (db.prepare q).map fun _ => db := by
  cases q with
  | addRow | setEntry | removeFields | removeRow => cases hq
  | _ => rfl

theorem missing_of_execute (hq : q.writes = false) (h : db.execute q = .error state) :
    db.tables Schema.catalogTable = none := by
  rw [execute_of_reading hq] at h
  exact missing_of_prepare h

theorem eq_of_execute (hq : q.writes = false) (h : db.execute q = .ok db') : db' = db := by
  rw [execute_of_reading hq] at h
  exact eq_of_prepare h

end Reading

/-! ## Answers -/

/-- Rows that list the names with a property. -/
def Lists (rows : List Row) (p : String → Prop) : Prop :=
  ∃ names, Catalog.textColumn rows = .ok names ∧ ∀ name, name ∈ names ↔ p name

/-- What the document of a class says about a field. -/
def entryOf? (doc : Json) (field : String) : Option Json := (doc.get? "fields").bind (·.get? field)

/-- Rows that a statement is answered with. -/
def Answers (db : Database) : CatalogStatement → List Row → Prop
  | .row className, rows =>
    match db.rows className with
    | none => rows = []
    | some doc => ∃ r, rows = [r] ∧ r.Shows doc
  | .rows, rows =>
    (∀ r ∈ rows, ∃ className doc, db.rows className = some doc ∧ r.Shows doc) ∧
      ∀ className doc, db.rows className = some doc → ∃ r ∈ rows, r.Shows doc
  | .fieldEntry className field, rows =>
    match db.rows className with
    | none => rows = []
    | some doc => ∃ r entry, rows = [r] ∧ r.json? 0 = .ok entry ∧ Option.Rel Json.Kept (entryOf? doc field) entry
  | .columnsOf table, rows => Lists rows fun name => ∃ columns, db.tables table = some columns ∧ (columns name).isSome
  | .tablesAmong names, rows => Lists rows fun name => name ∈ names ∧ (db.tables name).isSome
  | _, _ => True

end Database

end Sql

end Docstore
