import Docstore.Proofs.Store.Commits
import Docstore.Proofs.Store.FieldEntries

/-!
# Classes that grow

What a field that is added makes of the table and of the row of its class (`Grown`): where the operation succeeds, on a
server that nothing else uses, this is all that has become of them (`addField_brings`). Columns and entries that were
there stay as they are.
-/

namespace Docstore

open Docstore.Engine
open Docstore.Sql (CatalogStatement Columns Database DefinedType Definition)
open Docstore.Server (Brings Yields)

variable {committed db mid db' : Database}

namespace Sql.Database

/-- The type of a column of a table, if both are there. -/
def column? (db : Database) (table name : String) : Option DefinedType := (db.tables table).bind fun columns => columns name

theorem tables_of_change {q : CatalogStatement} (h : db.change q = .ok db') : db'.tables = db.tables := by
  cases q with
  | addRow className doc ignoreConflict =>
      rw [change] at h
      split at h
      · cases h
        rfl
      · split at h
        · cases h
          rfl
        · cases h
  | setEntry className path value | removeFields className fields =>
      cases h
      rw [changeRow]
      split <;> rfl
  | _ =>
      cases h
      rfl

/-- A column is refused where its table is missing, and where its name is taken by the system. -/
theorem define_addColumn_error {table : String} {column : ColumnDefinition} {state : Option SqlState}
    (h : db.define (.addColumn table column) = .error state) :
    db.tables table = none ∧ state = some .undefinedTable ∨
      (db.tables table).isSome ∧ column.name ∈ systemColumns ∧ state = some .duplicateColumn := by
  by_cases hsystem : column.name ∈ systemColumns
  · cases htable : db.tables table with
    | none =>
        rw [define, Database.table, htable] at h
        cases h
        exact .inl ⟨rfl, rfl⟩
    | some columns =>
        rw [define, Database.table, htable] at h
        simp only [Except.bind, hsystem, if_true] at h
        cases h
        exact .inr ⟨rfl, hsystem, rfl⟩
  · exact .inl (refused_addColumn hsystem h)

end Sql.Database

/-! ## Rows -/

namespace Catalog

variable {doc v : Json} {field other : String} {type : FieldType}

/-- A row has an object of fields, so that fields can be set in it. -/
def HasFields (doc : Json) : Prop := ∃ fields, doc.get? "fields" = some (.object fields)

/-- A row declares a field of a type, as what is read of its entry says. -/
def Tells (doc : Json) (field : String) (type : FieldType) : Prop :=
  ∃ entry kept f, Database.entryOf? doc field = some entry ∧ entry.Kept kept ∧ Field.ofJson? kept = some f ∧ f.type = type

theorem tells_of_toJson {f : Field} (h : Database.entryOf? doc field = some f.toJson) : Tells doc field f.type := by
  obtain ⟨kept, hkept⟩ := Json.Kept.exists_kept f.toJson
  obtain ⟨f', hf', htype⟩ := Field.ofJson?_kept hkept
  exact ⟨_, kept, f', h, hkept, hf', htype⟩

theorem hasFields_of_entry {entry : Json} (h : Database.entryOf? doc field = some entry) : HasFields doc := by
  obtain ⟨fields, hfields, hentry⟩ := Option.bind_eq_some_iff.mp h
  cases fields with
  | object fs => exact ⟨fs, hfields⟩
  | _ => cases hentry

theorem hasFields_toJson (s : Schema) : HasFields s.toJson := ⟨_, rfl⟩

theorem setAt_fieldPath (members : Document) : Json.setAt v (fieldPath field) (.object members) =
    match Fields.get? "fields" members with
    | some fields => .object (Fields.insert "fields" (Json.setAt v [field] fields) members)
    | none => .object members := rfl

/-- To set a field in a row changes what it says of that field alone, if it has an object of fields. -/
theorem entryOf?_setAt (h : HasFields doc) : Database.entryOf? (Json.setAt v (fieldPath field) doc) other =
    if other = field then some v else Database.entryOf? doc other := by
  obtain ⟨fields, hfields⟩ := h
  cases doc with
  | object members =>
      have hmembers : Fields.get? "fields" members = some (.object fields) := hfields
      have hset : (Json.setAt v (fieldPath field) (.object members)).get? "fields" =
          some (.object (Fields.insert field v fields)) := by
        rw [setAt_fieldPath, hmembers]
        exact Fields.get?_insert_self ..
      rw [Database.entryOf?, Database.entryOf?, hset, hfields]
      show Fields.get? other (Fields.insert field v fields) = if other = field then some v else Fields.get? other fields
      split
      next hsame => rw [hsame, Fields.get?_insert_self]
      next hne => exact Fields.get?_insert_of_ne hne ..
  | _ => cases hfields

theorem hasFields_setAt : HasFields (Json.setAt v (fieldPath field) doc) ↔ HasFields doc := by
  cases doc with
  | object members =>
      rw [setAt_fieldPath]
      cases hmembers : Fields.get? "fields" members with
      | none => rfl
      | some fields =>
          have hset : (Json.object (Fields.insert "fields" (Json.setAt v [field] fields) members)).get? "fields" =
              some (Json.setAt v [field] fields) := Fields.get?_insert_self ..
          have hbefore : (Json.object members).get? "fields" = some fields := hmembers
          rw [HasFields, HasFields, hset, hbefore]
          cases fields <;> simp [Json.setAt]
  | _ => rfl

end Catalog

namespace Catalog

variable {className field : String} {type : FieldType} {column : ColumnType} {declared : Field}

/-! ## Columns -/

/-- A class has got the table of a schema, and its row unless it had one. -/
structure Created (stored : Schema) (db db' : Database) : Prop where
  can : Database.CanHave (Definition.classColumns stored)
  table : db'.tables stored.className = some (Database.columnsOf (Definition.classColumns stored))
  row : db'.rows stored.className = some ((db.rows stored.className).getD stored.toJson)

/-- A class has got the table of a schema, and no row is changed yet. -/
structure Tabled (stored : Schema) (db db' : Database) : Prop where
  can : Database.CanHave (Definition.classColumns stored)
  table : db'.tables stored.className = some (Database.columnsOf (Definition.classColumns stored))
  rows : db'.rows = db.rows

/-- What becomes of the table of a class and of its row where a field is given a column. -/
inductive Housed (className field : String) (type : FieldType) (column : ColumnType) (db db' : Database) : Prop
  | added {columns : Columns} (htable : db.tables className = some columns) (hfield : field ∉ Sql.systemColumns)
      (heq : db' = db.setTable className (columns.adding ⟨field, .column column⟩))
  /-- The name of a column of the system is refused like that of any column that is there. -/
  | passed (htable : (db.tables className).isSome) (hfield : field ∈ Sql.systemColumns) (heq : db' = db)
  | created (hmissing : db.tables className = none) (hcreated : Created (schemaOfField className field type) db db')

/-- To create a table changes no other table, no table that is there, and no row. -/
theorem kept_of_createTable {name other : String} {columns : List Sql.ColumnDefinition} {keys : List String}
    (hdefine : db.define (.createTable other columns keys) = .ok db') (hname : name = other → (db.tables name).isSome) :
    db'.tables name = db.tables name ∧ db'.rows = db.rows := by
  rcases Database.define_createTable.mp hdefine with ⟨-, rfl⟩ | ⟨hnone, -, rfl⟩
  · exact ⟨rfl, rfl⟩
  · refine ⟨(Database.setTable_tables ..).trans (if_neg fun hsame => ?_), rfl⟩
    have hthere := hname hsame
    rw [hsame, hnone] at hthere
    cases hthere

theorem createTables_yields {stored : Schema} :
    Yields committed (fun db' => db'.tables stored.className = none ∧ db'.rows = db.rows) (createTables stored)
      fun _ => Tabled stored db := by
  have htable : Yields committed (fun db' => db'.tables stored.className = none ∧ db'.rows = db.rows)
      (define (.classTable stored)) fun _ => Tabled stored db := by
    refine Server.define_yields fun db₀ db' hdb hdefine => ?_
    rcases Database.define_createTable.mp hdefine with ⟨hthere, -⟩ | ⟨-, hcan, rfl⟩
    · rw [hdb.1] at hthere
      cases hthere
    · exact ⟨hcan, (Database.setTable_tables ..).trans (if_pos rfl), hdb.2⟩
  refine htable.bind fun _ => .forM (I := fun _ => Server.Running committed (Tabled stored db)) fun name _ _ =>
    Server.define_yields fun db₀ db' hdb hdefine => ?_
  obtain ⟨htables, hrows⟩ := kept_of_createTable hdefine fun _ => by rw [hdb.table]; rfl
  exact ⟨hdb.can, htables.trans hdb.table, hrows.trans hdb.rows⟩

theorem addRow_yields {stored : Schema} :
    Yields committed (Tabled stored db) (addRow stored true) fun _ => Created stored db := by
  refine Operation.Ensures.bind (Server.query_yields (Q := fun _ => Created stored db)
    fun db₀ db' _ hdb hexecute _ => ?_) fun _ => .pure fun _ hs => hs
  have hchange := (Database.execute_eq_ok hexecute).1
  refine ⟨hdb.can, (congrFun (Database.tables_of_change hchange) _).trans hdb.table, ?_⟩
  rw [Database.change, hdb.rows] at hchange
  cases hrow : db.rows stored.className with
  | none =>
      rw [hrow] at hchange
      cases hchange
      exact (Database.setRow_rows ..).trans (if_pos rfl)
  | some doc =>
      rw [hrow] at hchange
      cases hchange
      exact (congrFun hdb.rows _).trans hrow

theorem creation_yields {stored : Schema} (hne : stored.className ≠ Schema.catalogTable)
    (hmissing : db.tables stored.className = none) :
    Yields committed (· = db) (do ensure; createTables stored; addRow stored true) fun _ => Created stored db := by
  have hensure : Yields committed (· = db) ensure fun _ db' =>
      db'.tables stored.className = none ∧ db'.rows = db.rows := by
    refine Server.define_yields fun db₀ db' hdb hdefine => ?_
    subst hdb
    obtain ⟨htables, hrows⟩ := kept_of_createTable hdefine fun hsame => absurd hsame hne
    exact ⟨htables.trans hmissing, hrows⟩
  exact hensure.bind fun _ => createTables_yields.bind fun _ => addRow_yields

theorem addColumn_yields (hne : db.tables className = none → className ≠ Schema.catalogTable) :
    Yields committed (· = db) (addColumn className field type column) fun _ => Housed className field type column db := by
  refine Operation.Ensures.bind (R := fun failure => Server.Running committed fun db' => match failure with
    | none => Housed className field type column db db'
    | some e => db' = db ∧ (e.hasState .undefinedTable = true ∧ db.tables className = none ∨
        e.hasState .undefinedTable = false ∧ (db.tables className).isSome ∧ field ∈ Sql.systemColumns))
    (Server.attempt_yields (fun db₀ db' hdb hdefine => ?_) fun db₀ e hdb haccepts htrue => ?_) fun failure => ?_
  · subst hdb
    obtain ⟨columns, hcolumns, hsystem, rfl⟩ := Database.define_addColumn.mp hdefine
    exact .added hcolumns hsystem rfl
  · subst hdb
    refine ⟨rfl, ?_⟩
    cases hstate : e.hasState .undefinedTable with
    | true =>
        rcases Database.define_addColumn_error (htrue _ (by decide) hstate) with ⟨hmissing, -⟩ | ⟨-, -, hother⟩
        · exact .inl ⟨rfl, hmissing⟩
        · cases hother
    | false =>
        have htaken : e.hasState .duplicateColumn = true := by simpa [isColumnAnswer, hstate] using haccepts
        rcases Database.define_addColumn_error (htrue _ (by decide) htaken) with ⟨-, hother⟩ | ⟨hthere, hsystem, -⟩
        · cases hother
        · exact .inr ⟨rfl, hthere, hsystem⟩
  · cases failure with
    | none => exact .pure fun _ hs => hs
    | some e =>
        refine Server.Yields.each fun db₀ hdb => ?_
        obtain ⟨rfl, ⟨hstate, hmissing⟩ | ⟨hstate, hthere, hsystem⟩⟩ := hdb
        · simp only [Option.any_some, hstate, if_true]
          exact Operation.Ensures.mono (@creation_yields committed db₀ (schemaOfField className field type) (hne hmissing)
            hmissing) (fun _ hs => hs) (fun _ _ hs => hs.mono fun _ => .created hmissing) fun _ _ h => h
        · simp only [Option.any_some, hstate]
          exact .pure fun s hs => hs.mono fun db' hdb => .passed hthere hsystem hdb

/-! ## Entries -/

/-- What is said of a field decides what is written, and that is what becomes of the database. -/
def Noted (className field : String) (declared : Field) (db db' : Database) : Prop :=
  ∃ written, Reconciled db className field declared written (.ok ()) ∧ written.foldlM Database.change db = .ok db'

theorem query_notes {q : CatalogStatement} (h : Reconciled db className field declared [q] (.ok ())) :
    Yields committed (· = db) (do let _ ← query q : Operation Unit) fun _ => Noted className field declared db := by
  refine Operation.Ensures.bind (Server.query_yields (Q := fun _ => Noted className field declared db)
    fun db₀ db' _ hdb hexecute _ => ?_) fun _ => .pure fun _ hs => hs
  subst hdb
  exact ⟨[q], h, by rw [List.foldlM_cons, (Database.execute_eq_ok hexecute).1]; rfl⟩

theorem addEntry_yields :
    Yields committed (· = db) (addEntry className field declared) fun _ => Noted className field declared db := by
  refine Operation.Ensures.bind (R := fun answer => Server.Running committed fun db' =>
    db' = db ∧ db.Answers (.fieldEntry className field) answer.rows)
    (Server.query_yields (Q := fun rows db' => db' = db ∧ db.Answers (.fieldEntry className field) rows)
      fun db₀ db' rows hdb hexecute ha => ?_) fun answer => Server.Yields.each fun db₀ hdb => ?_
  · subst hdb
    exact ⟨Database.eq_of_execute rfl hexecute, ha⟩
  obtain ⟨rfl, ha⟩ := hdb
  rw [Database.Answers] at ha
  cases hdoc : db₀.rows className with
  | none =>
      rw [hdoc] at ha
      rw [ha]
      exact query_notes (.uncatalogued hdoc)
  | some doc =>
      rw [hdoc] at ha
      obtain ⟨r, entry, hrows, hentry, hkept⟩ := ha
      rw [hrows]
      refine Operation.Ensures.bind (R := fun entry' => Server.Running committed fun db' => db' = db₀ ∧ entry' = entry)
        (.ofResult (fun entry' s hentry' hs => hs.mono fun db' hdb => ⟨hdb, ?_⟩) fun _ _ _ _ => trivial)
        fun entry' => Server.Yields.each fun db' hdb => ?_
      · cases hentry.symm.trans hentry'
        rfl
      · obtain ⟨rfl, rfl⟩ := hdb
        cases hfound : Database.entryOf? doc field with
        | none =>
            rw [hfound] at hkept
            cases hkept
            exact query_notes (.undeclared hdoc hfound)
        | some found =>
            rw [hfound] at hkept
            cases hkept with
            | some hkept =>
                refine .ofResult (fun u s hcheck hs => hs.mono fun db'' hdb => ?_) fun _ _ _ _ => trivial
                subst hdb
                exact ⟨[], hcheck ▸ reconciled_of_kept hdoc hfound hkept, rfl⟩

/-- The row of a class with a field that is declared: it is new, or the field is set in it, or was declared in it. -/
theorem Noted.row (h : Noted className field declared db db') : db'.tables = db.tables ∧
    (db.rows className = none ∧ db'.rows className = some (schemaOfField className field declared.type).toJson ∨
      ∃ doc, db.rows className = some doc ∧
        (Database.entryOf? doc field = none ∧
            db'.rows className = some (Json.setAt declared.toJson (fieldPath field) doc) ∨
          db'.rows className = some doc ∧ Tells doc field declared.type)) := by
  obtain ⟨written, hreconciled, hwritten⟩ := h
  have hone : ∀ {q : CatalogStatement}, [q].foldlM Database.change db = .ok db' → db.change q = .ok db' := by
    intro q hq
    simpa only [List.foldlM_cons, List.foldlM_nil, bind_pure] using hq
  cases hreconciled with
  | uncatalogued hdoc =>
      refine ⟨Database.tables_of_change (hone hwritten), .inl ⟨hdoc, ?_⟩⟩
      have hchange := hone hwritten
      rw [Database.change, hdoc] at hchange
      cases hchange
      exact (Database.setRow_rows ..).trans (if_pos rfl)
  | @undeclared doc hdoc hentry =>
      refine ⟨Database.tables_of_change (hone hwritten), .inr ⟨doc, hdoc, .inl ⟨hentry, ?_⟩⟩⟩
      have hchange := hone hwritten
      rw [Database.change, Database.changeRow_of_row hdoc] at hchange
      cases hchange
      exact (Database.setRow_rows ..).trans (if_pos rfl)
  | declared hdoc hentry hkept hf htype =>
      cases hwritten
      exact ⟨rfl, .inr ⟨_, hdoc, .inr ⟨hdoc, _, _, _, hentry, hkept, hf, htype⟩⟩⟩

/-! ## Fields -/

/-- What becomes of a class where a field with a column is added to it. -/
def Grown (className field : String) (declared : Field) (db db' : Database) : Prop :=
  ∃ column mid, declared.type.column? = some column ∧ Housed className field declared.type column db mid ∧
    Noted className field declared mid db'

variable {other : String} {defined : DefinedType}

theorem mem_of_columnsOf {columns : List Sql.ColumnDefinition} (h : Database.columnsOf columns other = some defined) :
    ∃ c ∈ columns, c.name = other := by
  obtain ⟨c, hc, heq⟩ := List.mem_map.mp (Fields.mem_of_get?_eq_some h)
  cases heq
  exact ⟨c, hc, rfl⟩

namespace Grown

variable (h : Grown className field declared db db')

include h

/-- A column that is there stays as it is. -/
theorem column?_kept (hcolumn : db.column? className other = some defined) :
    db'.column? className other = some defined := by
  obtain ⟨column, mid, -, hhoused, hnoted⟩ := h
  rw [Database.column?, hnoted.row.1]
  cases hhoused with
  | @added columns htable hfield heq =>
      rw [Database.column?, htable] at hcolumn
      have hthere : columns other = some defined := hcolumn
      rw [heq, Database.setTable_tables, if_pos rfl, Option.bind_some, Columns.adding, hthere, Option.some_or]
  | passed htable hfield heq => exact heq ▸ hcolumn
  | created hmissing =>
      rw [Database.column?, hmissing] at hcolumn
      cases hcolumn

/-- A column that is there now was there, or is that of the field, or came with the table. -/
theorem column?_cases (hcolumn : db'.column? className other = some defined) :
    db.column? className other = some defined ∨
      other = field ∧ field ∉ Sql.systemColumns ∧ definedColumn? (some declared.type) = some defined ∨
      db.tables className = none ∧
        Database.CanHave (Definition.classColumns (schemaOfField className field declared.type)) ∧
        Database.columnsOf (Definition.classColumns (schemaOfField className field declared.type)) other =
          some defined := by
  obtain ⟨column, mid, htype, hhoused, hnoted⟩ := h
  rw [Database.column?, hnoted.row.1] at hcolumn
  cases hhoused with
  | @added columns htable hfield heq =>
      rw [heq, Database.setTable_tables, if_pos rfl, Option.bind_some, Columns.adding] at hcolumn
      rcases Option.or_eq_some_iff.mp hcolumn with hthere | ⟨-, hnew⟩
      · refine .inl ?_
        rw [Database.column?, htable]
        exact hthere
      · split at hnew
        next hsame => exact .inr (.inl ⟨hsame, hfield, by rw [← hnew, definedColumn?, Option.bind_some, htype]; rfl⟩)
        next => cases hnew
  | passed htable hfield heq => exact .inl (heq ▸ hcolumn)
  | created hmissing hcreated =>
      rw [show mid.tables className = _ from hcreated.table] at hcolumn
      exact .inr (.inr ⟨hmissing, hcreated.can, hcolumn⟩)

/-- Nothing is ever done to the columns of the system. -/
theorem column?_system (hsystem : other ∈ Sql.systemColumns) :
    db'.column? className other = db.column? className other := by
  cases hcolumn : db'.column? className other with
  | none =>
      cases hbefore : db.column? className other with
      | none => rfl
      | some defined => exact hcolumn.symm.trans (h.column?_kept hbefore)
  | some defined =>
      rcases h.column?_cases hcolumn with hbefore | ⟨rfl, hfield, -⟩ | ⟨-, hcan, hnew⟩
      · exact hbefore.symm
      · exact absurd hsystem hfield
      · obtain ⟨c, hc, rfl⟩ := mem_of_columnsOf hnew
        exact absurd hsystem (hcan.2 c hc)

theorem isSome_column? (hfield : field ∉ Sql.systemColumns) : (db'.column? className field).isSome := by
  obtain ⟨column, mid, htype, hhoused, hnoted⟩ := h
  rw [Database.column?, hnoted.row.1]
  cases hhoused with
  | @added columns htable _ heq =>
      rw [heq, Database.setTable_tables, if_pos rfl, Option.bind_some, Columns.adding, if_pos rfl]
      cases columns field <;> rfl
  | passed htable hsystem heq => exact absurd hsystem hfield
  | created hmissing hcreated =>
      have hneeds : (definedColumn? (some declared.type)).isSome := by
        rw [definedColumn?, Option.bind_some, htype]
        rfl
      obtain ⟨defined, hdefined⟩ := Option.isSome_iff_exists.mp
        (@Schema.exists_column_schemaOfField className field _ hneeds)
      have hstored : (schemaOfField className field declared.type).IsStored :=
        Schema.isStored_toStorage (List.pairwise_singleton _ _)
      rw [show mid.tables className = _ from hcreated.table, Option.bind_some, hstored.fits.has field defined hdefined]
      rfl

theorem isSome_table : (db'.tables className).isSome := by
  obtain ⟨column, mid, -, hhoused, hnoted⟩ := h
  rw [hnoted.row.1]
  cases hhoused with
  | added htable hfield heq =>
      rw [heq, Database.setTable_tables, if_pos rfl]
      rfl
  | passed htable hfield heq => exact heq ▸ htable
  | created hmissing hcreated =>
      rw [show mid.tables className = _ from hcreated.table]
      rfl

/-- A row is added where there was none, and otherwise changed in a place that says nothing yet, if at all. -/
theorem row_cases :
    db.rows className = none ∧ db'.rows className = some (schemaOfField className field declared.type).toJson ∨
      ∃ doc, db.rows className = some doc ∧
        (Database.entryOf? doc field = none ∧
            db'.rows className = some (Json.setAt declared.toJson (fieldPath field) doc) ∨
          db'.rows className = some doc ∧ Tells doc field declared.type) := by
  obtain ⟨column, mid, -, hhoused, hnoted⟩ := h
  have hrow := hnoted.row.2
  cases hhoused with
  | added htable hfield heq => rwa [heq, Database.setTable_rows] at hrow
  | passed htable hfield heq => rwa [heq] at hrow
  | created hmissing hcreated =>
      have hmid : mid.rows className =
          some ((db.rows className).getD (schemaOfField className field declared.type).toJson) := hcreated.row
      cases hbefore : db.rows className with
      | some doc =>
          rw [hmid, hbefore, Option.getD_some] at hrow
          exact .inr ⟨doc, rfl, by simpa using hrow⟩
      | none =>
          rw [hmid, hbefore, Option.getD_none] at hrow
          refine .inl ⟨rfl, ?_⟩
          rcases hrow with ⟨hnone, -⟩ | ⟨doc, hdoc, ⟨hentry, -⟩ | ⟨hkept, -⟩⟩
          · cases hnone
          · cases hdoc
            cases hentry.symm.trans entryOf?_schemaOfField
          · rw [hkept, hdoc]

end Grown

end Catalog

namespace Store

variable {s : Store} {className field : String} {declared : Field}

theorem addField_brings (hcolumn : declared.type.isRelation = false)
    (hne : db.tables className = none → className ≠ Schema.catalogTable) :
    Brings (· = db) (s.addField className field declared) fun _ => Catalog.Grown className field declared db := by
  obtain ⟨column, hcolumn⟩ := Option.ne_none_iff_exists'.mp (FieldType.isRelation_eq_false_iff.mp hcolumn)
  refine Server.connect_brings.bind fun _ =>
    (Server.transaction_yields ?_).bind fun _ => Server.announce_brings
  rw [Catalog.addStorage, hcolumn]
  refine (Catalog.addColumn_yields hne).bind fun _ => Server.Yields.each fun mid hhoused => ?_
  exact Catalog.addEntry_yields.mono (fun _ hs => hs)
    (fun _ _ hs => hs.mono fun db' hnoted => ⟨column, mid, hcolumn, hhoused, hnoted⟩) fun _ _ h => h

end Store

end Docstore
