import Docstore.Proofs.Store.Documents
import Docstore.Store.Classes
import Docstore.Store.Columns

/-!
# Tables in step with the catalog

A database is in step if every field in the catalog has its column (`InStep`). What definitions preserve is more than
that: the tables of classes have no other columns than those of the fields in the catalog and of the hidden fields of
users (`Aligned`). A definition that does nothing because something is there already would leave behind what is there.
-/

namespace Docstore

open Docstore.Sql (ColumnDefinition Columns Database DefinedType Definition)

theorem FieldType.isRelation_eq_false_iff {type : FieldType} : type.isRelation = false ↔ type.column? ≠ none := by
  cases type with
  | arrayOf contents => cases contents <;> simp [isRelation, column?]
  | _ => simp [isRelation, column?]

/-- The column of a field of a type, if there is such a field and it has a column. -/
def definedColumn? (type? : Option FieldType) : Option DefinedType := (type?.bind FieldType.column?).map .column

theorem definedColumn?_eq_some {type? : Option FieldType} {column : DefinedType} :
    definedColumn? type? = some column ↔ ∃ type columnType, type? = some type ∧ type.column? = some columnType ∧
      column = .column columnType := by
  constructor
  · intro h
    obtain ⟨columnType, hcolumn, rfl⟩ := Option.map_eq_some_iff.mp h
    obtain ⟨type, rfl, htype⟩ := Option.bind_eq_some_iff.mp hcolumn
    exact ⟨type, columnType, rfl, htype, rfl⟩
  · rintro ⟨type, columnType, rfl, htype, rfl⟩
    rw [definedColumn?, Option.bind_some, htype]
    rfl

namespace Schema

/-- A column for each field that needs one, and no others but for those that users have without a declaration. -/
structure Fits (s : Schema) (columns : Columns) : Prop where
  has : ∀ name column, definedColumn? (s.fieldType? name) = some column → columns name = some column
  only : ∀ name column, columns name = some column → definedColumn? (s.fieldType? name) = some column ∨
    s.className = userClass ∧ definedColumn? (userHiddenFields.get? name) = some column

/-- Names of classes, which are no names of other tables. -/
def IsClassName (name : String) : Prop := name ≠ catalogTable ∧ isJoinTable name = false

/--
A field that may be added to a class. The columns that no schema declares, those of the system and those that are
hidden from users, are there already, so that their names do not stand for columns of any type.
-/
def IsAddable (className field : String) (type : FieldType) : Prop :=
  ∀ column, type.column? = some column → field ∉ Sql.systemColumns ∧ (className = userClass →
    ∀ hidden, userHiddenFields.get? field = some hidden → hidden.column? = some column)

end Schema

namespace Sql.Database

/-- Every field of every class in the catalog, unless it is a relation, has its column in the table of the class. -/
def InStep (db : Database) : Prop :=
  ∀ className doc, db.rows className = some doc → ∃ s, Schema.ofJson? doc = some s ∧
    ∀ field type, s.fieldType? field = some type → type.isRelation = false → ∃ column columns,
      type.column? = some column ∧ db.tables className = some columns ∧ columns field = some (.column column)

structure Aligned (db : Database) : Prop where
  row : ∀ className doc, db.rows className = some doc → Schema.IsClassName className ∧
    ∃ s : Schema, doc = s.toJson ∧ s.className = className ∧
      ∃ columns, db.tables className = some columns ∧ s.Fits columns
  catalog : db.tables Schema.catalogTable = none → db.rows = fun _ => none

/-- Nothing is left of a class that is not in the catalog. -/
def Tidy (db : Database) (className : String) : Prop := (db.tables className).isSome → (db.rows className).isSome

variable {db db' : Database}

theorem Tidy.of_row {className : String} {doc : Json} (h : db.rows className = some doc) : db.Tidy className :=
  fun _ => Option.isSome_iff_exists.mpr ⟨doc, h⟩

theorem aligned_of_no_rows (h : ∀ className, db.rows className = none) : db.Aligned :=
  ⟨fun className _ hdoc => absurd ((h className).symm.trans hdoc) nofun, fun _ => funext h⟩

theorem Aligned.isSome_catalog (h : db.Aligned) {className : String} {doc : Json}
    (hdoc : db.rows className = some doc) : (db.tables Schema.catalogTable).isSome := by
  cases hcatalog : db.tables Schema.catalogTable with
  | some columns => rfl
  | none =>
      rw [h.catalog hcatalog] at hdoc
      cases hdoc

theorem Aligned.rows_of_missing (h : db.Aligned) {className : String} (hmissing : db.tables className = none) :
    db.rows className = none := by
  cases hrow : db.rows className with
  | none => rfl
  | some doc =>
      obtain ⟨-, -, -, -, columns, hcolumns, -⟩ := h.row className doc hrow
      cases hmissing.symm.trans hcolumns

theorem Aligned.has (h : db.Aligned) {className : String} {s : Schema} (hdoc : db.rows className = some s.toJson) :
    ∃ columns, db.tables className = some columns ∧
      ∀ name column, definedColumn? (s.fieldType? name) = some column → columns name = some column := by
  obtain ⟨-, s', hs', -, columns, hcolumns, hfits⟩ := h.row className _ hdoc
  obtain ⟨t, ht, -, htypes⟩ := s.exists_ofJson?_toJson
  obtain ⟨t', ht', -, htypes'⟩ := s'.exists_ofJson?_toJson
  rw [hs'] at ht
  cases ht.symm.trans ht'
  refine ⟨columns, hcolumns, fun name column hcolumn => hfits.has name column ?_⟩
  rwa [← htypes', htypes]

theorem Aligned.inStep (h : db.Aligned) : db.InStep := by
  intro className doc hdoc
  obtain ⟨-, s, rfl, -⟩ := h.row className doc hdoc
  obtain ⟨columns, hcolumns, hhas⟩ := h.has hdoc
  obtain ⟨s', hs', -, htypes⟩ := s.exists_ofJson?_toJson
  refine ⟨s', hs', fun field type hfield hplain => ?_⟩
  obtain ⟨column, hcolumn⟩ := Option.ne_none_iff_exists'.mp (FieldType.isRelation_eq_false_iff.mp hplain)
  refine ⟨column, columns, hcolumn, hcolumns, hhas field _ ?_⟩
  exact definedColumn?_eq_some.mpr ⟨type, column, (htypes field).symm.trans hfield, hcolumn, rfl⟩

/-! ## Tables of relations and of the catalog -/

theorem not_isClassName_joinTable (className field : String) :
    ¬Schema.IsClassName (Schema.joinTable className field) := by
  simp [Schema.IsClassName, Schema.isJoinTable, Schema.joinTable, Schema.joinMark]

/-- Tables that are no classes come and go without the catalog. -/
theorem Aligned.setTable (h : db.Aligned) {name : String} {columns : Columns} (hname : ¬Schema.IsClassName name) :
    (db.setTable name columns).Aligned := by
  refine ⟨fun className doc hdoc => ?_, fun hcatalog => ?_⟩
  · obtain ⟨hclass, s, hs, hsame, columns', hcolumns', hfits⟩ := h.row className doc hdoc
    have hne : className ≠ name := by
      rintro rfl
      exact hname hclass
    exact ⟨hclass, s, hs, hsame, columns', by rwa [setTable_tables, if_neg hne], hfits⟩
  · rw [setTable_tables] at hcatalog
    split at hcatalog
    · cases hcatalog
    · exact h.catalog hcatalog

/-- A class gets a row and a table that fit each other, in place of what it has. -/
theorem Aligned.setClass (h : db.Aligned) (hcatalog : (db.tables Schema.catalogTable).isSome) {s : Schema}
    {columns : Columns} (hclass : Schema.IsClassName s.className) (hfits : s.Fits columns) :
    ((db.setTable s.className columns).setRow s.className s.toJson).Aligned := by
  refine ⟨fun className doc hdoc => ?_, fun hmissing => ?_⟩
  · rw [setRow_rows] at hdoc
    rw [setRow_tables, setTable_tables]
    split at hdoc
    next hsame =>
      subst hsame
      cases hdoc
      exact ⟨hclass, s, rfl, rfl, columns, if_pos rfl, hfits⟩
    next hne =>
      rw [if_neg hne]
      exact h.row className doc hdoc
  · rw [setRow_tables, setTable_tables, if_neg hclass.1.symm] at hmissing
    rw [hmissing] at hcatalog
    cases hcatalog

/-- Rows are gone, and tables, but no table whose row is left. -/
theorem Aligned.restrict (h : db.Aligned) (hrows : ∀ className doc, db'.rows className = some doc →
      db.rows className = some doc ∧ db'.tables className = db.tables className)
    (hcatalog : db'.tables Schema.catalogTable = none → db'.rows = fun _ => none) : db'.Aligned := by
  refine ⟨fun className doc hdoc => ?_, hcatalog⟩
  obtain ⟨hrow, hsame⟩ := hrows className doc hdoc
  rw [hsame]
  exact h.row className doc hrow

theorem Aligned.clear (h : db.Aligned) (name : String) : (db.clear name).Aligned := by
  rw [Database.clear]
  split
  · exact aligned_of_no_rows fun _ => rfl
  · exact h

def dropAll (db : Database) (names : List String) : Database := names.foldl drop db

theorem dropAll_tables (names : List String) (table : String) :
    (db.dropAll names).tables table = if table ∈ names then none else db.tables table := by
  induction names generalizing db with
  | nil => rfl
  | cons name names ih =>
      show ((db.drop name).dropAll names).tables table = _
      rw [ih, drop_tables]
      by_cases hname : table = name <;> by_cases hnames : table ∈ names <;> simp [hname, hnames]

theorem dropAll_rows (names : List String) (className : String) :
    (db.dropAll names).rows className = if Schema.catalogTable ∈ names then none else db.rows className := by
  induction names generalizing db with
  | nil => rfl
  | cons name names ih =>
      show ((db.drop name).dropAll names).rows className = _
      rw [ih, drop_rows]
      by_cases hname : name = Schema.catalogTable
      · simp [hname]
      · simp [hname, Ne.symm hname]

theorem aligned_dropAll {names : List String} (h : Schema.catalogTable ∈ names) : (db.dropAll names).Aligned :=
  aligned_of_no_rows fun className => (dropAll_rows names className).trans (if_pos h)

/-- A class is gone with its table, and other tables that are no classes with it. -/
theorem Aligned.dropClass (h : db.Aligned) {className : String} {names : List String}
    (hnames : ∀ name ∈ names, name = className ∨ ¬Schema.IsClassName name) :
    ((db.dropAll names).dropRow className).Aligned := by
  by_cases hcatalog : Schema.catalogTable ∈ names
  · refine aligned_of_no_rows fun other => ?_
    rw [dropRow_rows, dropAll_rows, if_pos hcatalog, ite_self]
  · refine h.restrict (fun other doc hdoc => ?_) fun hmissing => funext fun other => ?_
    · rw [dropRow_rows, dropAll_rows, if_neg hcatalog] at hdoc
      split at hdoc
      next => cases hdoc
      next hne =>
        refine ⟨hdoc, (dropAll_tables names other).trans (if_neg fun hmem => ?_)⟩
        exact (hnames other hmem).elim hne fun hno => hno (h.row other doc hdoc).1
    · rw [dropRow_tables, dropAll_tables, if_neg hcatalog] at hmissing
      rw [dropRow_rows, dropAll_rows, h.catalog hmissing, ite_self, ite_self]

end Sql.Database

/-! ## Tables of classes -/

namespace Schema

/-- The form in which schemas are stored: each name once, and who may read and write in lists of strings. -/
structure IsStored (s : Schema) : Prop where
  nodup : (Fields.names s.fields).Nodup
  lists : ∀ name, name = "_rperm" ∨ name = "_wperm" → s.fieldType? name = some (.arrayOf .string)

theorem isStored_toStorage {s : Schema} (h : (Fields.names s.fields).Nodup) : s.toStorage.IsStored := by
  have hdeclared :
      (Fields.names (declare "_rperm" (.arrayOf .string) (declare "_wperm" (.arrayOf .string) s.fields))).Nodup :=
    Fields.nodup_insert (Fields.nodup_insert h)
  constructor
  · rw [toStorage]
    dsimp only
    split
    · exact Fields.nodup_insert (Fields.nodup_insert hdeclared)
    · exact hdeclared
  · rintro name (rfl | rfl)
    all_goals
      rw [fieldType?, toStorage]
      dsimp only
      split
      all_goals simp [declare, Fields.get?_insert_of_ne, Fields.get?_insert_self, Field.ofType]

theorem exists_column_declare {name field : String} {type : FieldType} {fields : Fields Field}
    (htype : (definedColumn? (some type)).isSome)
    (h : (definedColumn? ((fields.get? field).map (·.type))).isSome) :
    (definedColumn? (((declare name type fields).get? field).map (·.type))).isSome := by
  by_cases hname : field = name
  · subst hname
    rw [declare, Fields.get?_insert_self]
    exact htype
  · rwa [declare, Fields.get?_insert_of_ne hname]

theorem exists_column_schemaOfField {className field : String} {type : FieldType}
    (h : (definedColumn? (some type)).isSome) :
    (definedColumn? ((Catalog.schemaOfField className field type).fieldType? field)).isSome := by
  have hself : (definedColumn? (((declare field type []).get? field).map (·.type))).isSome := by
    rw [declare, Fields.get?_insert_self]
    exact h
  rw [fieldType?, Catalog.schemaOfField, toStorage]
  dsimp only
  split
  · exact exists_column_declare rfl (exists_column_declare rfl
      (exists_column_declare rfl (exists_column_declare rfl hself)))
  · exact exists_column_declare rfl (exists_column_declare rfl hself)

/-- The fields that schemas have when they are stored may be added wherever the others may. -/
theorem isAddable_toStorage {s : Schema} (h : ∀ e ∈ s.fields, IsAddable s.className e.1 e.2.type) :
    ∀ e ∈ s.toStorage.fields, IsAddable s.className e.1 e.2.type := by
  have hdeclare : ∀ (name : String) (type : FieldType) {fields : Fields Field}, IsAddable s.className name type →
      (∀ e ∈ fields, IsAddable s.className e.1 e.2.type) →
      ∀ e ∈ declare name type fields, IsAddable s.className e.1 e.2.type := by
    intro name type fields hname hfields e he
    rcases mem_declare he with he | rfl
    · exact hfields e he
    · exact hname
  have hplain : ∀ (name : String) {type : FieldType}, name ∉ Sql.systemColumns → userHiddenFields.get? name = none →
      IsAddable s.className name type :=
    fun _ _ hsystem hhidden _ _ => ⟨hsystem, fun _ hidden h => nomatch hhidden.symm.trans h⟩
  have hhistory : IsAddable s.className "_password_history" .array := by
    intro column hcolumn
    refine ⟨by decide, fun _ hidden hhidden => ?_⟩
    cases hhidden
    exact hcolumn
  have hlists := hdeclare "_rperm" (.arrayOf .string) (hplain _ (by decide) rfl)
    (hdeclare "_wperm" (.arrayOf .string) (hplain _ (by decide) rfl) h)
  rw [toStorage]
  dsimp only
  split
  · exact hdeclare _ _ hhistory (hdeclare _ _ (hplain _ (by decide) rfl) hlists)
  · exact hlists

/-! ### New tables -/

/-- The column that a table has for a field, whose type is that of the field, also where it is fixed by the name. -/
theorem classColumn?_type {name : String} {type : FieldType}
    (hlists : name = "_rperm" ∨ name = "_wperm" → type = .arrayOf .string) :
    (Definition.classColumn? name type).map (fun c => (c.name, c.type)) =
      (definedColumn? (some type)).map (name, ·) := by
  rw [Definition.classColumn?, definedColumn?, Option.bind_some]
  by_cases hlist : name = "_rperm" ∨ name = "_wperm"
  · rw [hlists hlist]
    rcases hlist with rfl | rfl <;> rfl
  · rw [not_or] at hlist
    simp [hlist, Function.comp_def]

theorem columnsOf_filterMap {fs : Fields FieldType} (hnodup : (Fields.names fs).Nodup)
    (hlists : ∀ e ∈ fs, e.1 = "_rperm" ∨ e.1 = "_wperm" → e.2 = .arrayOf .string) (name : String) :
    Database.columnsOf (fs.filterMap fun (name, type) => Definition.classColumn? name type) name =
      definedColumn? (fs.get? name) := by
  induction fs with
  | nil => rfl
  | cons e rest ih =>
      obtain ⟨key, type⟩ := e
      obtain ⟨hkey, hrest⟩ := List.nodup_cons.mp hnodup
      have htail := ih hrest fun e he => hlists e (.tail _ he)
      have hhead : (Definition.classColumn? key type).map (fun c => (c.name, c.type)) =
          (definedColumn? (some type)).map (key, ·) := classColumn?_type (hlists _ (.head _))
      rw [Fields.get?, List.filterMap_cons]
      cases hc : Definition.classColumn? key type with
      | none =>
          simp only [hc, htail]
          rw [hc] at hhead
          have hnone : definedColumn? (some type) = none := Option.map_eq_none_iff.mp hhead.symm
          split
          next hsame =>
            subst hsame
            rw [hnone, Fields.get?_eq_none_iff.mpr hkey]
            rfl
          next => rfl
      | some c =>
          rw [hc] at hhead
          obtain ⟨column, hcolumn, hpair⟩ := Option.map_eq_some_iff.mp hhead.symm
          cases hpair
          simp only [hc]
          show Fields.get? name ((c.name, c.type) :: _) = _
          rw [Fields.get?]
          split
          next => exact hcolumn.symm
          next => exact htail

theorem classFields_get? (s : Schema) (name : String) : (Definition.classFields s).get? name =
    (s.fieldType? name).or (if s.isUserClass then userHiddenFields.get? name else none) := by
  rw [Definition.classFields, Fields.get?_append, Fields.get?_map Field.type, fieldType?]
  cases hf : s.fields.get? name with
  | some f => rfl
  | none =>
      split
      next =>
        have hkept : (!Fields.contains name s.fields) = true := by rw [Fields.contains, hf]; rfl
        rw [Fields.get?_filter fun name => !Fields.contains name s.fields, if_pos hkept]
      next => rfl

/-- The table that a class is created with fits its schema. -/
theorem IsStored.fits {s : Schema} (h : s.IsStored) :
    s.Fits (Database.columnsOf (Definition.classColumns s)) := by
  have hnodup : (Fields.names (Definition.classFields s)).Nodup := by
    rw [Definition.classFields, Fields.names, List.map_append, List.map_map]
    refine List.nodup_append.mpr ⟨h.nodup, ?_, ?_⟩
    · split
      · exact (List.filter_sublist.map _).nodup (by decide)
      · exact .nil
    · rintro name hname other hother rfl
      split at hother
      · obtain ⟨e, he, rfl⟩ := List.mem_map.mp hother
        have hnot : Fields.get? e.1 s.fields = none := by
          simpa [Fields.contains] using (List.mem_filter.mp he).2
        exact Fields.get?_eq_none_iff.mp hnot hname
      · cases hother
  have hlists : ∀ e ∈ Definition.classFields s, e.1 = "_rperm" ∨ e.1 = "_wperm" → e.2 = .arrayOf .string := by
    intro e he hname
    have hget : (Definition.classFields s).get? e.1 = some e.2 := (Fields.get?_eq_some_iff hnodup _ _).mpr he
    rw [classFields_get?, h.lists _ hname] at hget
    exact (Option.some.inj hget).symm
  have hcolumns : ∀ name, Database.columnsOf (Definition.classColumns s) name =
      definedColumn? ((s.fieldType? name).or (if s.isUserClass then userHiddenFields.get? name else none)) := by
    intro name
    rw [Definition.classColumns, columnsOf_filterMap hnodup hlists, classFields_get?]
  constructor
  · intro name column hcolumn
    rw [hcolumns]
    cases htype : s.fieldType? name with
    | none =>
        rw [htype] at hcolumn
        cases hcolumn
    | some type =>
        rw [htype] at hcolumn
        exact hcolumn
  · intro name column hcolumn
    rw [hcolumns] at hcolumn
    cases htype : s.fieldType? name with
    | none =>
        rw [htype] at hcolumn
        cases huser : s.isUserClass with
        | true =>
            rw [huser] at hcolumn
            exact .inr ⟨eq_of_beq huser, hcolumn⟩
        | false =>
            rw [huser] at hcolumn
            cases hcolumn
    | some type =>
        rw [htype] at hcolumn
        exact .inl hcolumn

/-! ### Fields that come and go -/

variable {s : Schema} {columns columns' : Columns}

theorem fieldType?_insert (s : Schema) (field : String) (f : Field) (other : String) :
    fieldType? { s with fields := s.fields.insert field f } other =
      if other = field then some f.type else s.fieldType? other := by
  rw [fieldType?, fieldType?]
  split
  next hsame =>
    subst hsame
    rw [Fields.get?_insert_self]
    rfl
  next hne => rw [Fields.get?_insert_of_ne hne]

theorem Fits.insert (h : s.Fits columns) {field : String} {f : Field}
    (hothers : ∀ other, other ≠ field → columns' other = columns other)
    (hhas : ∀ column, definedColumn? (some f.type) = some column → columns' field = some column)
    (honly : ∀ column, columns' field = some column → definedColumn? (some f.type) = some column ∨
      s.className = userClass ∧ definedColumn? (userHiddenFields.get? field) = some column) :
    Fits { s with fields := s.fields.insert field f } columns' := by
  constructor
  · intro name column hcolumn
    rw [fieldType?_insert] at hcolumn
    split at hcolumn
    next hsame =>
      subst hsame
      exact hhas column hcolumn
    next hne =>
      rw [hothers name hne]
      exact h.has name column hcolumn
  · intro name column hcolumn
    rw [fieldType?_insert]
    split
    next hsame =>
      subst hsame
      exact honly column hcolumn
    next hne =>
      rw [hothers name hne] at hcolumn
      exact h.only name column hcolumn

theorem fieldType?_filter (s : Schema) (names : List String) (other : String) :
    fieldType? { s with fields := s.fields.filter fun e => e.1 ∉ names } other =
      if other ∈ names then none else s.fieldType? other := by
  rw [fieldType?, fieldType?]
  show (Fields.get? other (s.fields.filter fun e => decide (e.1 ∉ names))).map _ = _
  rw [Fields.get?_filter fun name => decide (name ∉ names)]
  by_cases hmem : other ∈ names <;> simp [hmem]

theorem mem_columnFields_iff {names : List String} {name : String} :
    name ∈ Store.columnFields s names ↔
      name ∈ names ∧ ∀ type, s.fieldType? name = some type → type.isRelation = false := by
  rw [Store.columnFields, List.mem_filter]
  cases s.fieldType? name <;> simp

/-- Fields without their columns; the columns of hidden fields go with them. -/
theorem Fits.filter (h : s.Fits columns) (names : List String) :
    Fits { s with fields := s.fields.filter fun e => e.1 ∉ names }
      fun name => if name ∈ Store.columnFields s names then none else columns name := by
  constructor
  · intro name column hcolumn
    rw [fieldType?_filter] at hcolumn
    split at hcolumn
    next => cases hcolumn
    next hnot =>
      rw [if_neg fun hmem => hnot (mem_columnFields_iff.mp hmem).1]
      exact h.has name column hcolumn
  · intro name column hcolumn
    split at hcolumn
    next => cases hcolumn
    next hnot =>
      rw [fieldType?_filter]
      rcases h.only name column hcolumn with htype | hhidden
      · refine .inl ?_
        rw [if_neg]
        · exact htype
        · intro hmem
          refine hnot (mem_columnFields_iff.mpr ⟨hmem, fun type hfield => ?_⟩)
          obtain ⟨type', columnType, htype', hcolumn, -⟩ := definedColumn?_eq_some.mp htype
          cases hfield.symm.trans htype'
          exact FieldType.isRelation_eq_false_iff.mpr (by simp [hcolumn])
      · exact .inr hhidden

end Schema

theorem Sql.Database.Aligned.shrink {db : Database} (h : db.Aligned) {s : Schema} {columns : Columns}
    (hdoc : db.rows s.className = some s.toJson) (hfits : s.Fits columns) (names : List String) :
    ((db.setTable s.className fun name => if name ∈ Store.columnFields s names then none else columns name).setRow
      s.className ({ s with fields := s.fields.filter fun e => e.1 ∉ names } : Schema).toJson).Aligned :=
  h.setClass (s := { s with fields := s.fields.filter fun e => e.1 ∉ names }) (h.isSome_catalog hdoc) (h.row _ _ hdoc).1
    (hfits.filter names)

end Docstore
