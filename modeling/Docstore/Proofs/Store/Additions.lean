import Docstore.Proofs.Store.Alignment
import Docstore.Proofs.Store.Server

/-!
# New classes and fields

What is created inside a transaction, unless it is there already: the tables and the row of a class, and the column or
the table of a field with its entry in the catalog. A database that was aligned is aligned again in the end.
-/

namespace Docstore

open Docstore.Engine
open Docstore.Sql (Columns Database Definition)
open Docstore.Server (Inside Within)

variable {before : Database}

/-! ## New classes -/

namespace Catalog

variable {s : Schema} {className : String} {fresh : Prop}

/-- A database that a class may be added to, or in which it is there as a whole. -/
structure Open (className : String) (fresh : Prop) (db : Database) : Prop where
  aligned : db.Aligned
  tidy : db.Tidy className
  fresh : fresh → db.rows className = none

theorem Open.setTable {db : Database} (h : Open className fresh db) (hclass : Schema.IsClassName className)
    {name : String} {columns : Columns} (hname : ¬Schema.IsClassName name) :
    Open className fresh (db.setTable name columns) := by
  have hne : className ≠ name := by
    rintro rfl
    exact hname hclass
  refine ⟨h.aligned.setTable hname, fun hthere => h.tidy ?_, h.fresh⟩
  rwa [Database.setTable_tables, if_neg hne] at hthere

theorem createTable_inside {P : Database → Prop} {name : String} {columns : List Sql.ColumnDefinition}
    {keys : List String} (hP : ∀ db columns, P db → P (db.setTable name columns)) :
    Inside before P (define (.createTable name columns keys)) (fun _ db => P db ∧ (db.tables name).isSome)
      fun _ => True := by
  refine Server.define_inside fun db db' hdb hdefine => ?_
  rcases Database.define_createTable.mp hdefine with ⟨hthere, rfl⟩ | ⟨-, -, rfl⟩
  · exact ⟨hdb, hthere⟩
  · exact ⟨hP db _ hdb, by simp⟩

theorem ensure_inside (hclass : Schema.IsClassName className) :
    Inside before (Open className fresh) ensure
      (fun _ db => Open className fresh db ∧ (db.tables Schema.catalogTable).isSome) fun _ => True :=
  createTable_inside fun _ _ hdb => hdb.setTable hclass fun hcatalog => hcatalog.1 rfl

/-- The tables of a class are there, but maybe not its row yet. -/
def Creating (s : Schema) (fresh : Prop) (db : Database) : Prop :=
  ∃ base : Database, Open s.className fresh base ∧ (base.tables Schema.catalogTable).isSome ∧
    ((base.tables s.className).isSome ∧ db = base ∨ base.tables s.className = none ∧
      db = base.setTable s.className (Database.columnsOf (Definition.classColumns s)))

theorem Creating.setTable {db : Database} (h : Creating s fresh db) (hclass : Schema.IsClassName s.className)
    {name : String} {columns : Columns} (hname : ¬Schema.IsClassName name) :
    Creating s fresh (db.setTable name columns) := by
  obtain ⟨base, hopen, hcatalog, hdb⟩ := h
  have hne : s.className ≠ name := by
    rintro rfl
    exact hname hclass
  refine ⟨base.setTable name columns, hopen.setTable hclass hname, ?_, ?_⟩
  · rw [Database.setTable_tables]
    split
    · rfl
    · exact hcatalog
  · rw [Database.setTable_tables, if_neg hne]
    rcases hdb with ⟨hthere, rfl⟩ | ⟨hmissing, rfl⟩
    · exact .inl ⟨hthere, rfl⟩
    · exact .inr ⟨hmissing, Database.setTable_comm hne ..⟩

theorem createTables_inside (hclass : Schema.IsClassName s.className) :
    Inside before (fun db => Open s.className fresh db ∧ (db.tables Schema.catalogTable).isSome) (createTables s)
      (fun _ => Creating s fresh) fun _ => True := by
  refine Operation.Ensures.bind (R := fun _ => Within before (Creating s fresh))
    (Server.define_inside fun db db' hdb hdefine => ?_) fun _ => ?_
  · rcases Database.define_createTable.mp hdefine with ⟨hthere, rfl⟩ | ⟨hmissing, -, rfl⟩
    · exact ⟨_, hdb.1, hdb.2, .inl ⟨hthere, rfl⟩⟩
    · exact ⟨db, hdb.1, hdb.2, .inr ⟨hmissing, rfl⟩⟩
  · refine Operation.Ensures.forM (I := fun _ => Within before (Creating s fresh)) fun field _ _ => ?_
    refine (createTable_inside fun _ _ hdb => ?_).mono (fun _ hs => hs) (fun _ _ hs => hs.mono fun _ hdb => hdb.1)
      fun _ _ hs => hs
    exact Creating.setTable hdb hclass (Database.not_isClassName_joinTable _ _)

theorem addRow_inside (hs : s.IsStored) (hclass : Schema.IsClassName s.className) {ignoreConflict : Bool} :
    Inside before (Creating s fresh) (addRow s ignoreConflict)
      (fun _ db => db.Aligned ∧ (fresh → db.rows s.className = some s.toJson)) fun _ => True := by
  refine Operation.Ensures.bind (Server.query_inside (Q := fun _ db => db.Aligned ∧
    (fresh → db.rows s.className = some s.toJson)) fun db db' rows hdb hexecute _ => ?_) fun _ => .pure fun _ hs => hs
  obtain ⟨base, ⟨haligned, htidy, hfresh⟩, hcatalog, hdb⟩ := hdb
  have hrows : db.rows = base.rows := by rcases hdb with ⟨-, rfl⟩ | ⟨-, rfl⟩ <;> rfl
  have hchange := (Database.execute_eq_ok hexecute).1
  rw [Database.change, hrows] at hchange
  -- A class without a row had no table either, so that the row is for the table that was created.
  cases hrow : base.rows s.className with
  | none =>
      rw [hrow, if_pos Option.isNone_none] at hchange
      cases hchange
      rcases hdb with ⟨hthere, -⟩ | ⟨-, rfl⟩
      · have hknown := htidy hthere
        rw [hrow] at hknown
        cases hknown
      · exact ⟨haligned.setClass hcatalog hclass hs.fits, fun _ => by simp⟩
  | some doc =>
      rw [hrow, if_neg (by simp)] at hchange
      obtain ⟨-, -, -, -, columns, hcolumns, -⟩ := haligned.row _ _ hrow
      have hsame : db = base := by
        rcases hdb with ⟨-, rfl⟩ | ⟨hmissing, -⟩
        · rfl
        · cases hmissing.symm.trans hcolumns
      split at hchange
      · cases hchange
        rw [hsame]
        exact ⟨haligned, fun h => nomatch hrow.symm.trans (hfresh h)⟩
      · cases hchange

theorem addClass_inside (hs : s.IsStored) (hclass : Schema.IsClassName s.className) :
    Inside before (Open s.className fresh) (do ensure; createTables s; addRow s true)
      (fun _ db => db.Aligned ∧ (fresh → db.rows s.className = some s.toJson)) fun _ => True :=
  (ensure_inside hclass).bind fun _ => (createTables_inside hclass).bind fun _ => addRow_inside hs hclass

/-! ## New fields -/

/-- A database in which a field has been given its place, but maybe not its entry in the catalog yet. -/
def Ready (className field : String) (type : FieldType) (db : Database) : Prop :=
  ∃ base : Database, base.Aligned ∧ base.Tidy className ∧
    match type.column? with
    | some column => base.define (Definition.newColumn className field column) = .ok db
    | none => db = base ∧ (base.rows className).isSome

/-- The class of a field that has its place, before and after its table was given the column, if it needs one. -/
structure Placed (className field : String) (type : FieldType) (base db : Database) (s : Schema)
    (columns columns' : Columns) : Prop where
  aligned : base.Aligned
  row : base.rows className = some s.toJson
  named : s.className = className
  table : base.tables className = some columns
  fits : s.Fits columns
  eq : db = base.setTable className columns'
  others : ∀ other, other ≠ field → columns' other = columns other
  column : columns' field = (columns field).or (definedColumn? (some type))

theorem Ready.placed {field : String} {type : FieldType} {db : Database} (h : Ready className field type db) :
    ∃ base s columns columns', Placed className field type base db s columns columns' := by
  obtain ⟨base, haligned, htidy, hready⟩ := h
  cases hcolumn : type.column? with
  | none =>
      rw [hcolumn] at hready
      obtain ⟨rfl, hthere⟩ := hready
      obtain ⟨doc, hdoc⟩ := Option.isSome_iff_exists.mp hthere
      obtain ⟨-, s, rfl, hnamed, columns, hcolumns, hfits⟩ := haligned.row className doc hdoc
      refine ⟨db, s, columns, columns, haligned, hdoc, hnamed, hcolumns, hfits, ?_, fun _ _ => rfl, ?_⟩
      · rw [Database.setTable_self hcolumns]
      · simp [definedColumn?, hcolumn]
  | some column =>
      rw [hcolumn] at hready
      obtain ⟨columns, hcolumns, -, rfl⟩ := Database.define_addColumn.mp hready
      have hthere : (base.tables className).isSome := by rw [hcolumns]; rfl
      obtain ⟨doc, hdoc⟩ := Option.isSome_iff_exists.mp (htidy hthere)
      obtain ⟨-, s, rfl, hnamed, columns', hcolumns', hfits⟩ := haligned.row className doc hdoc
      cases hcolumns.symm.trans hcolumns'
      refine ⟨base, s, columns, _, haligned, hdoc, hnamed, hcolumns, hfits, rfl, fun other hne => ?_, ?_⟩
      · simp [Columns.adding, hne]
      · simp [Columns.adding, definedColumn?, hcolumn]

namespace Placed

variable {field : String} {type : FieldType} {base db : Database} {columns columns' : Columns}

theorem row_after (h : Placed className field type base db s columns columns') :
    db.rows className = some s.toJson := by
  rw [h.eq, Database.setTable_rows, h.row]

/-- A field that is declared had its place before. -/
theorem aligned_of_declared (h : Placed className field type base db s columns columns')
    (hdeclared : s.fieldType? field = some type) : db.Aligned := by
  have hsame : columns' = columns := by
    funext other
    by_cases hother : other = field
    · subst hother
      rw [h.column]
      cases hcolumn : definedColumn? (some type) with
      | none => simp
      | some column => rw [h.fits.has _ column (hdeclared ▸ hcolumn), Option.some_or]
    · exact h.others other hother
  rw [h.eq, hsame, Database.setTable_self h.table]
  exact h.aligned

/-- The column of a field that was not declared is a new one, or that of a hidden field. -/
theorem fits_of_new {f : Field} (h : Placed className field f.type base db s columns columns')
    (hadd : Schema.IsAddable className field f.type) (hnew : s.fieldType? field = none) :
    Schema.Fits { s with fields := s.fields.insert field f } columns' := by
  obtain ⟨-, -, rfl, -, hfits, -, hothers, hcolumn⟩ := h
  have hhidden : ∀ column, columns field = some column →
      s.className = Schema.userClass ∧ definedColumn? (Schema.userHiddenFields.get? field) = some column := by
    intro column hthere
    refine (hfits.only field column hthere).resolve_left ?_
    rw [hnew]
    nofun
  refine hfits.insert hothers (fun column hneeds => ?_) fun column hthere => ?_
  · rw [hcolumn, hneeds]
    cases hthere : columns field with
    | none => rfl
    | some column' =>
        obtain ⟨huser, hhidden⟩ := hhidden column' hthere
        obtain ⟨type', columnType, htype', htype, rfl⟩ := definedColumn?_eq_some.mp hneeds
        cases htype'
        obtain ⟨hidden, columnType', hget, hcolumn', rfl⟩ := definedColumn?_eq_some.mp hhidden
        cases hcolumn'.symm.trans ((hadd columnType htype).2 huser hidden hget)
        rw [Option.some_or]
  · rw [hcolumn] at hthere
    cases hbefore : columns field with
    | none =>
        rw [hbefore] at hthere
        exact .inl hthere
    | some column' =>
        rw [hbefore] at hthere
        cases hthere
        exact .inr (hhidden _ hbefore)

theorem aligned_of_new {f : Field} (h : Placed className field f.type base db s columns columns')
    (hclass : Schema.IsClassName className) (hadd : Schema.IsAddable className field f.type)
    (hnew : s.fieldType? field = none) :
    (db.setRow className ({ s with fields := s.fields.insert field f } : Schema).toJson).Aligned := by
  have hfits := h.fits_of_new hadd hnew
  obtain ⟨haligned, hrow, rfl, -, -, rfl, -, -⟩ := h
  exact haligned.setClass (s := { s with fields := s.fields.insert field f }) (haligned.isSome_catalog hrow) hclass
    hfits

end Placed

variable {field : String} {declared : Field}

/-- A class that is created with a field has a place for it. -/
theorem ready_of_created {type : FieldType} {column : ColumnType} {db : Database} (hcolumn : type.column? = some column)
    (hsystem : field ∉ Sql.systemColumns) (haligned : db.Aligned)
    (hrow : db.rows className = some (schemaOfField className field type).toJson) : Ready className field type db := by
  obtain ⟨columns, hcolumns, hhas⟩ := haligned.has hrow
  have hneeds : (definedColumn? (some type)).isSome := by
    rw [definedColumn?, Option.bind_some, hcolumn]
    rfl
  obtain ⟨defined, hdefined⟩ := Option.isSome_iff_exists.mp (Schema.exists_column_schemaOfField hneeds)
  have hthere : columns.adding ⟨field, .column column⟩ = columns := by
    funext other
    by_cases hother : other = field
    · rw [Columns.adding, hother, hhas field defined hdefined, Option.some_or]
    · simp [Columns.adding, hother]
  refine ⟨db, haligned, .of_row hrow, ?_⟩
  rw [hcolumn]
  refine Database.define_addColumn.mpr ⟨columns, hcolumns, hsystem, ?_⟩
  rw [hthere, Database.setTable_self hcolumns]

/-- A table that is missing is created with its first column, together with the row of its class. -/
theorem addColumn_inside (hclass : Schema.IsClassName className) {type : FieldType} {column : ColumnType}
    (hcolumn : type.column? = some column) (hadd : Schema.IsAddable className field type) :
    Inside before (fun db => db.Aligned ∧ db.Tidy className) (addColumn className field type column)
      (fun _ => Ready className field type) fun _ => True := by
  have hsystem : field ∉ Sql.systemColumns := (hadd column hcolumn).1
  refine Operation.Ensures.bind (R := fun failure => Within before fun db => match failure with
    | none => Ready className field type db
    | some e => db.Aligned ∧ db.tables className = none ∧ e.hasState .undefinedTable = true)
    (Server.attempt_inside (fun db db' hdb hdefine => ?_) fun db e hdb haccepts htrue => ?_) fun failure => ?_
  · refine ⟨db, hdb.1, hdb.2, ?_⟩
    rw [hcolumn]
    exact hdefine
  · have hrefused : ∀ state ∈ [SqlState.undefinedTable, .undefinedColumn, .duplicateColumn],
        e.hasState state = true → db.tables className = none ∧ some state = some .undefinedTable :=
      fun state hstate hhas => Database.refused_addColumn hsystem (htrue state hstate hhas)
    rcases Bool.or_eq_true_iff.mp haccepts with hhas | hhas
    · exact ⟨hdb.1, (hrefused _ (by decide) hhas).1, hhas⟩
    · cases (hrefused _ (by decide) hhas).2
  · cases failure with
    | none => exact .pure fun _ hs => hs
    | some e =>
        by_cases hhas : e.hasState .undefinedTable = true
        · simp only [Option.any_some, hhas, if_true]
          have hstored : (schemaOfField className field type).IsStored :=
            Schema.isStored_toStorage (List.pairwise_singleton _ _)
          have hcreated : Inside before (Open className True) _ _ _ := addClass_inside hstored hclass
          refine hcreated.mono
            (fun s hs => hs.mono fun db hdb => ⟨hdb.1, fun hthere => ?_, fun _ => hdb.1.rows_of_missing hdb.2.1⟩)
            (fun _ s hs => hs.mono fun db hdb => ready_of_created hcolumn hsystem hdb.1 (hdb.2 trivial))
            fun _ _ hs => hs
          rw [hdb.2.1] at hthere
          cases hthere
        · simp only [Option.any_some, hhas]
          exact .pure fun s hs => hs.mono fun db hdb => nomatch hdb.2.2

/-- A database that a field may be added to. -/
structure Accepts (className : String) (type : FieldType) (db : Database) : Prop where
  aligned : db.Aligned
  tidy : db.Tidy className
  row : type.column? = none → (db.rows className).isSome

theorem addStorage_inside (hclass : Schema.IsClassName className)
    (hadd : Schema.IsAddable className field declared.type) :
    Inside before (Accepts className declared.type) (addStorage className field declared.type)
      (fun _ => Ready className field declared.type) fun _ => True := by
  rw [addStorage]
  cases hcolumn : declared.type.column? with
  | none =>
      refine (createTable_inside (P := fun db => db.Aligned ∧ (db.rows className).isSome) fun db columns hdb => ?_).mono
        (fun s hs => hs.mono fun db hdb => ⟨hdb.aligned, hdb.row hcolumn⟩) (fun _ s hs => hs.mono fun db hdb => ?_)
        fun _ _ hs => hs
      · exact ⟨hdb.1.setTable (Database.not_isClassName_joinTable _ _), hdb.2⟩
      · refine ⟨db, hdb.1.1, fun _ => hdb.1.2, ?_⟩
        rw [hcolumn]
        exact ⟨rfl, hdb.1.2⟩
  | some column =>
      exact (addColumn_inside hclass hcolumn hadd).mono (fun s hs => hs.mono fun db hdb => ⟨hdb.aligned, hdb.tidy⟩)
        (fun _ _ hs => hs) fun _ _ hs => hs

/-! ### Entries -/

/-- A database in which a field has its place, and what its catalog says about the field. -/
def Entered (className field : String) (type : FieldType) (entry : Option Json) (db : Database) : Prop :=
  ∃ base s columns columns', Placed className field type base db s columns columns' ∧
    Option.Rel Json.Kept ((s.fields.get? field).map Field.toJson) entry

/-- The row of the class is there, as its table or its row was what the field was given its place in. -/
theorem Ready.entered {type : FieldType} {db : Database} {rows : List Wire.Row} (h : Ready className field type db)
    (ha : db.Answers (.fieldEntry className field) rows) :
    ∃ r entry, rows = [r] ∧ r.json? 0 = .ok entry ∧ Entered className field type entry db := by
  obtain ⟨base, s, columns, columns', hplaced⟩ := h.placed
  rw [Database.Answers, hplaced.row_after] at ha
  obtain ⟨r, entry, hrows, hentry, hkept⟩ := ha
  rw [Schema.entryOf?_toJson] at hkept
  exact ⟨r, entry, hrows, hentry, base, s, columns, columns', hplaced, hkept⟩

theorem checkEntry_eq_ok {entry : Json} {u : Unit} (h : checkEntry className field declared entry = .ok u) :
    ∃ f, Field.ofJson? entry = some f ∧ f.type = declared.type := by
  rw [checkEntry] at h
  split at h
  · cases h
  · split at h
    next hf htype => exact ⟨_, hf, htype⟩
    next => cases h

theorem Entered.aligned_of_checked {entry : Json} {db : Database} {u : Unit}
    (h : Entered className field declared.type (some entry) db)
    (hcheck : checkEntry className field declared entry = .ok u) : db.Aligned ∧ db.Tidy className := by
  obtain ⟨base, s, columns, columns', hplaced, hkept⟩ := h
  obtain ⟨f', hf', htype⟩ := checkEntry_eq_ok hcheck
  refine ⟨hplaced.aligned_of_declared ?_, .of_row hplaced.row_after⟩
  cases hf : s.fields.get? field with
  | none =>
      rw [hf] at hkept
      cases hkept
  | some f =>
      rw [hf] at hkept
      cases hkept with
      | some hkept =>
          obtain ⟨f'', hf'', htype'⟩ := Field.ofJson?_kept hkept
          cases hf'.symm.trans hf''
          rw [Schema.fieldType?, hf, Option.map_some, ← htype', htype]

theorem Entered.aligned_of_set {db db' : Database} (h : Entered className field declared.type none db)
    (hclass : Schema.IsClassName className) (hadd : Schema.IsAddable className field declared.type)
    (hchange : db.change (.setEntry className (fieldPath field) declared.toJson) = .ok db') :
    db'.Aligned ∧ db'.Tidy className := by
  obtain ⟨base, s, columns, columns', hplaced, hkept⟩ := h
  have hnew : s.fieldType? field = none := by
    cases hf : s.fields.get? field with
    | none => rw [Schema.fieldType?, hf, Option.map_none]
    | some f =>
        rw [hf] at hkept
        cases hkept
  rw [Database.change, Database.changeRow_of_row hplaced.row_after, Schema.setAt_field] at hchange
  cases hchange
  exact ⟨hplaced.aligned_of_new hclass hadd hnew, fun _ => by simp⟩

theorem addEntry_inside (hclass : Schema.IsClassName className)
    (hadd : Schema.IsAddable className field declared.type) :
    Inside before (Ready className field declared.type) (addEntry className field declared)
      (fun _ db => db.Aligned ∧ db.Tidy className) fun _ => True := by
  refine Operation.Ensures.bind (Server.read_inside rfl) fun answer => ?_
  cases hanswer : answer.rows with
  | nil =>
      refine Operation.Ensures.bind (R := fun _ => Within before fun db => db.Aligned ∧ db.Tidy className)
        (Server.query_inside (Q := fun _ db => db.Aligned ∧ db.Tidy className) fun db db' rows hdb _ _ => ?_)
        fun _ => .pure fun _ hs => hs
      obtain ⟨_, _, hrows, _⟩ := hdb.1.entered hdb.2
      cases hanswer.symm.trans hrows
  | cons r rest =>
      refine Operation.Ensures.bind (R := fun entry => Within before (Entered className field declared.type entry))
        (.ofResult (fun entry s hentry hs => hs.mono fun db hdb => ?_) fun _ _ _ hs => hs.mono fun _ _ => trivial)
        fun entry => ?_
      · obtain ⟨r', entry', hrows, hentry', hentered⟩ := hdb.1.entered hdb.2
        cases hanswer.symm.trans hrows
        cases hentry.symm.trans hentry'
        exact hentered
      · cases entry with
        | some entry =>
            exact .ofResult (fun u s hcheck hs => hs.mono fun db hdb => hdb.aligned_of_checked hcheck)
              fun _ _ _ hs => hs.mono fun _ _ => trivial
        | none =>
            exact Operation.Ensures.bind (Server.query_inside (Q := fun _ db => db.Aligned ∧ db.Tidy className)
              fun db db' rows hdb hexecute _ => hdb.aligned_of_set hclass hadd (Database.execute_eq_ok hexecute).1)
              fun _ => .pure fun _ hs => hs

end Catalog

end Docstore
