import Docstore.Proofs.Store.Additions

/-!
# Schemas that change

Whatever classes and fields are created and deleted, and whatever fails, every field in the catalog has its column
(`evolution_inStep`), as long as what is created does not meet the remains of something else.
-/

namespace Docstore

open Docstore.Engine
open Docstore.Sql (CatalogStatement Columns Database Definition)
open Docstore.Sql.Database (Aligned)
open Docstore.Server (Idle Inside Step Within)

variable {before : Database}

/-! ## Reading schemas -/

namespace Catalog

variable {className : String}

/-- What is read of the row of a class, which has a table that fits it. -/
def Found (className : String) (found : Option Schema) (db : Database) : Prop :=
  match found with
  | none => db.rows className = none
  | some t => ∃ (s : Schema) (columns : Columns), s.className = className ∧ db.rows className = some s.toJson ∧
      db.tables className = some columns ∧ s.Fits columns ∧ ∀ name, t.fieldType? name = s.fieldType? name

theorem exists_schemaOf {r : Wire.Row} {s : Schema} (hr : r.Shows s.toJson) :
    ∃ t, schemaOf r = .ok t ∧ t.className = s.className ∧ (Fields.names t.fields).Nodup ∧
      ∀ name, t.fieldType? name = s.fieldType? name := by
  obtain ⟨v, hv, hkept⟩ := hr
  obtain ⟨t, ht, hread⟩ := Schema.ofJson?_kept hkept
  refine ⟨t, ?_, hread⟩
  rw [schemaOf, hv]
  simp only [Except.bind, bind, ht]
  rfl

theorem exists_found {db : Database} {doc : Json} {r : Wire.Row} (haligned : db.Aligned)
    (hdoc : db.rows className = some doc) (hr : r.Shows doc) :
    ∃ t, schemaOf r = .ok t ∧ db.Aligned ∧ Found className (some t) db := by
  obtain ⟨-, s, rfl, hnamed, columns, hcolumns, hfits⟩ := haligned.row _ _ hdoc
  obtain ⟨t, ht, -, -, htypes⟩ := exists_schemaOf hr
  exact ⟨t, ht, haligned, s, columns, hnamed, hdoc, hcolumns, hfits, htypes⟩

/-- A schema is read inside of a transaction or outside of one. -/
theorem schema?_ensures {P : Database → Prop} {Q : Option Schema → Database → Prop}
    {F : (Database → Prop) → Server → Prop} {E : Fault → Server → Prop}
    (hmono : ∀ {P Q : Database → Prop} {s : Server}, (∀ db, P db → Q db) → F P s → F Q s)
    (hread : (query (.row className)).Ensures Step (F P)
      (fun answer => F fun db => P db ∧ db.Answers (.row className) answer.rows) E)
    (hnone : ∀ db, P db → db.rows className = none → Q none db)
    (hsome : ∀ db doc r, P db → db.rows className = some doc → r.Shows doc → ∃ t, schemaOf r = .ok t ∧ Q (some t) db)
    (herror : ∀ f s, F (fun _ => False) s → E f s) :
    (schema? className).Ensures Step (F P) (fun found => F (Q found)) E := by
  refine hread.bind fun answer => ?_
  cases answer.rows with
  | nil =>
      refine .pure fun s hs => hmono (fun db hdb => hnone db hdb.1 ?_) hs
      have ha := hdb.2
      rw [Database.Answers] at ha
      cases hdoc : db.rows className with
      | none => rfl
      | some doc =>
          rw [hdoc] at ha
          obtain ⟨_, hrow, -⟩ := ha
          cases hrow
  | cons r rest =>
      have hfound : ∀ db, P db ∧ db.Answers (.row className) (r :: rest) → ∃ t, schemaOf r = .ok t ∧ Q (some t) db := by
        rintro db ⟨hP, ha⟩
        rw [Database.Answers] at ha
        cases hdoc : db.rows className with
        | none =>
            rw [hdoc] at ha
            cases ha
        | some doc =>
            rw [hdoc] at ha
            obtain ⟨_, hrow, hshows⟩ := ha
            cases hrow
            exact hsome db doc r hP hdoc hshows
      refine Operation.Ensures.bind (R := fun t => F (Q (some t)))
        (.ofResult (fun t s ht hs => hmono (fun db hdb => ?_) hs)
          fun f s hf hs => herror f s (hmono (fun db hdb => ?_) hs))
        fun t => .pure fun _ hs => hs
      · obtain ⟨t', ht', hQ⟩ := hfound db hdb
        cases ht.symm.trans ht'
        exact hQ
      · obtain ⟨t', ht', -⟩ := hfound db hdb
        cases hf.symm.trans ht'

end Catalog

namespace Store

variable {className : String}

/-- Before a class is deleted, it is known that there is no catalog, or what its row says. -/
theorem known_idle : (Operation.recover Error.isMissing none (some <$> Catalog.schema? className)).Ensures Step
    (Idle Database.Aligned)
    (fun known => Idle fun db => db.Aligned ∧ (known = none → db.tables Schema.catalogTable = none))
    fun _ => Idle Database.Aligned := by
  refine .recover
    (F := fun f => Idle fun db => db.Aligned ∧ (f.isMissing = true → db.tables Schema.catalogTable = none)) ?_
    (fun e s haccepts hs => hs.mono fun db hdb => ⟨hdb.1, fun _ => hdb.2 haccepts⟩)
    fun _ s hs => hs.mono fun db hdb => hdb.1
  rw [Operation.map_eq]
  refine Operation.Ensures.bind (Catalog.schema?_ensures (Q := fun _ => Database.Aligned) (F := Idle)
    (fun h hs => hs.mono h) ?_ (fun _ h _ => h) (fun _ _ _ haligned hdoc hr => ?_) fun f s hs => hs.2.elim)
    fun _ => .pure fun _ hs => hs.mono fun db hdb => ⟨hdb, nofun⟩
  · exact Server.read_idle (Q := fun rows db => db.Aligned ∧ db.Answers (.row className) rows) rfl
      fun db rows haligned ha => ⟨haligned, ha⟩
  · obtain ⟨t, ht, haligned, -⟩ := Catalog.exists_found haligned hdoc hr
    exact ⟨t, ht, haligned⟩

theorem dropTables_inside {names : List String} :
    Inside before (· = before) (dropTables names) (fun _ db => db = before.dropAll names) fun _ => True := by
  refine (Operation.Ensures.forM (I := fun rest => Within before fun db => db.dropAll rest = before.dropAll names)
    fun name _ rest => Server.define_inside fun db db' hdb hdefine => ?_).mono
    (fun s (hs : Within before (· = before) s) => hs.mono fun db hdb => by rw [hdb]) (fun _ _ hs => hs) fun _ _ hs => hs
  cases hdefine
  exact hdb

/-! ## Operations -/

/-- What an operation leaves of an idle server's database, however it ends. -/
def Keeps {α : Type} (P I : Database → Prop) (op : Operation α) : Prop :=
  op.Ensures Step (Idle P) (fun _ => Idle I) fun _ => Idle I

section Keeping

variable {α β : Type} {P I : Database → Prop}

theorem Keeps.mono {P' I' : Database → Prop} {op : Operation α} (h : Keeps P' I' op) (hP : ∀ db, P db → P' db)
    (hI : ∀ db, I' db → I db) : Keeps P I op :=
  Operation.Ensures.mono h (fun _ hs => hs.mono hP) (fun _ _ hs => hs.mono hI) fun _ _ hs => hs.mono hI

theorem Keeps.connecting {s : Store} {op : Operation α} (hP : ∀ db, P db → I db) (h : Keeps P I op) :
    Keeps P I (do s.connect .pooled; op) := by
  refine Operation.Ensures.bind (R := fun _ => Idle P) ?_ fun _ => h
  exact Server.connect_idle.mono (fun _ hs => hs) (fun _ _ hs => hs) fun _ _ hs => hs.mono hP

theorem Keeps.announcing {s : Store} {className? : Option String} : Keeps I I (s.announce className?) :=
  Server.announce_idle

theorem Keeps.transaction {body : Operation β} {close : β → Operation α} (hP : ∀ db, P db → I db)
    (hbody : ∀ before, P before → Inside before (· = before) body (fun _ => I) fun _ => True)
    (hclose : ∀ b, Keeps I I (close b)) : Keeps P I (Operation.transaction body >>= close) :=
  (Server.transaction_idle hP hbody).bind hclose

/-- What is read outside of transactions does not matter, unless it is used. -/
theorem Keeps.reading {q : CatalogStatement} (hq : q.writes = false) {f : Engine.Answer → Operation α}
    (hf : ∀ answer, Keeps P P (f answer)) : Keeps P P (Catalog.query q >>= f) :=
  ((Server.read_idle hq fun _ _ hdb _ => hdb).mono (fun _ hs => hs) (fun _ _ hs => hs)
    fun _ _ hs => hs.mono fun _ hdb => hdb.1).bind hf

theorem Keeps.ofResult {outcome : Result α} : Keeps P P (liftM outcome : Operation α) :=
  Operation.Ensures.ofResult (fun _ _ _ hs => hs) fun _ _ _ hs => hs

end Keeping

theorem createIndexes_inside {indexes : Fields Document} :
    Inside before Database.Aligned (Index.createAll className indexes) (fun _ => Database.Aligned) fun _ => True := by
  refine Operation.Ensures.forM (I := fun _ => Within before Database.Aligned) fun _ _ _ => ?_
  refine .mapError (F := fun _ => Within before fun _ => True) (.recover (F := fun _ => Within before Database.Aligned)
    (Server.define_inside fun db db' hdb hdefine => ?_) (fun _ _ _ hs => hs)
    fun _ _ hs => hs.mono fun _ _ => trivial) (fun _ _ hs => hs) fun _ hs => hs
  rw [Database.define, Database.bind_table_eq_ok] at hdefine
  obtain ⟨columns, -, hdefine⟩ := hdefine
  split at hdefine
  · cases hdefine
    exact hdb
  · cases hdefine

theorem createClass_keeps {s : Store} {schema : Schema} (hclass : Schema.IsClassName schema.className)
    (hnames : (Fields.names schema.fields).Nodup) :
    Keeps (fun db => db.Aligned ∧ db.Tidy schema.className) Database.Aligned (s.createClass schema) := by
  have hstored : schema.toStorage.IsStored := Schema.isStored_toStorage hnames
  refine .connecting (fun _ h => h.1) (.transaction (fun _ h => h.1) (fun before hbefore => ?_) fun _ => ?_)
  · refine .beginning (P := Catalog.Open schema.toStorage.className False) ⟨hbefore.1, hbefore.2, nofun⟩ ?_
    refine (Catalog.ensure_inside hclass).bind fun _ =>
      (Catalog.createTables_inside (s := schema.toStorage) hclass).bind fun _ => ?_
    refine Operation.Ensures.bind (R := fun _ => Within before Database.Aligned) ?_ fun _ => createIndexes_inside
    refine .mapError ((Catalog.addRow_inside hstored hclass).mono (fun _ hs => hs)
      (fun _ _ hs => hs.mono fun db hdb => hdb.1) fun _ _ hs => hs) (fun _ _ hs => hs) fun _ hs => hs
  · exact Operation.Ensures.bind Keeps.announcing fun _ => .pure fun _ hs => hs

theorem addField_keeps {s : Store} {field : String} {declared : Field} (hclass : Schema.IsClassName className)
    (hadd : Schema.IsAddable className field declared.type) :
    Keeps (Catalog.Accepts className declared.type) (fun db => db.Aligned ∧ db.Tidy className)
      (s.addField className field declared) := by
  refine .connecting (fun _ h => ⟨h.aligned, h.tidy⟩)
    (.transaction (fun _ h => ⟨h.aligned, h.tidy⟩) (fun before hbefore => .beginning hbefore ?_) fun _ => .announcing)
  exact (Catalog.addStorage_inside hclass hadd).bind fun _ => Catalog.addEntry_inside hclass hadd

theorem upgrade_keeps {s : Store} {schema : Schema} (hclass : Schema.IsClassName schema.className)
    (hadd : ∀ e ∈ schema.fields, Schema.IsAddable schema.className e.1 e.2.type) :
    Keeps (fun db => db.Aligned ∧ db.Tidy schema.className) (fun db => db.Aligned ∧ db.Tidy schema.className)
      (s.upgrade schema) := by
  refine .connecting (fun _ h => h) (.reading rfl fun answer => Operation.Ensures.bind Keeps.ofResult fun columns => ?_)
  refine Operation.Ensures.forM (I := fun _ => Idle fun db => db.Aligned ∧ db.Tidy schema.className) fun e he _ => ?_
  obtain ⟨hmem, hmissing⟩ := List.mem_filter.mp he
  refine (addField_keeps hclass (Schema.isAddable_toStorage hadd e hmem)).mono
    (fun db hdb => ⟨hdb.1, hdb.2, fun hcolumn => ?_⟩) fun _ h => h
  rw [Bool.and_eq_true, Bool.not_eq_true'] at hmissing
  exact absurd hcolumn (FieldType.isRelation_eq_false_iff.mp hmissing.1)

/-- Fields are gone from the row of a class, but maybe not from its table yet. -/
def Shrinking (className : String) (fields : List String) (found : Schema) (db : Database) : Prop :=
  ∃ base : Database, base.Aligned ∧ ∃ (s : Schema) (columns : Columns), s.className = className ∧
    base.rows className = some s.toJson ∧ base.tables className = some columns ∧ s.Fits columns ∧
      (∀ name, found.fieldType? name = s.fieldType? name) ∧
        db = base.setRow className ({ s with fields := s.fields.filter fun e => e.1 ∉ fields } : Schema).toJson

theorem Shrinking.aligned {fields : List String} {found : Schema} {db : Database}
    (h : Shrinking className fields found db) : ∃ columns, db.tables className = some columns ∧
      (db.setTable className fun name => if name ∈ columnFields found fields then none else columns name).Aligned := by
  obtain ⟨base, haligned, s, columns, rfl, hdoc, hcolumns, hfits, htypes, rfl⟩ := h
  have hsame : columnFields found fields = columnFields s fields := by simp only [columnFields, htypes]
  rw [hsame]
  exact ⟨columns, hcolumns, haligned.shrink hdoc hfits fields⟩

theorem deleteFields_keeps {s : Store} {fields : List String} :
    Keeps Database.Aligned Database.Aligned (s.deleteFields className fields) := by
  refine .connecting (fun _ h => h) (.transaction (fun _ h => h) (fun before hbefore => ?_) fun _ => .announcing)
  refine .beginning hbefore ?_
  refine (Catalog.schema?_ensures (Q := fun found db => db.Aligned ∧ Catalog.Found className found db)
    (F := Within before) (fun h hs => hs.mono h) (Server.read_inside rfl) (fun _ haligned hdoc => ⟨haligned, hdoc⟩)
    (fun _ _ _ haligned hdoc hr => Catalog.exists_found haligned hdoc hr)
    fun _ _ hs => hs.mono fun _ _ => trivial).bind fun found => ?_
  cases found with
  | none => exact .throw fun _ hs => hs.mono fun _ _ => trivial
  | some t =>
      refine Operation.Ensures.bind (Server.query_inside (Q := fun _ => Shrinking className fields t)
        fun db db' rows hdb hexecute _ => ?_) fun _ => ?_
      · obtain ⟨haligned, s, columns, hnamed, hdoc, hcolumns, hfits, htypes⟩ := hdb
        have hchange := (Database.execute_eq_ok hexecute).1
        rw [Database.change, Database.changeRow_of_row hdoc, Schema.removeFields_toJson] at hchange
        cases hchange
        exact ⟨db, haligned, s, columns, hnamed, hdoc, hcolumns, hfits, htypes, rfl⟩
      · cases hfields : columnFields t fields with
        | nil =>
            refine .pure fun _ hs => hs.mono fun db hdb => ?_
            obtain ⟨columns, hcolumns, haligned⟩ := hdb.aligned
            rw [hfields] at haligned
            simpa [Database.setTable_self hcolumns] using haligned
        | cons name names =>
            refine Server.define_inside fun db db' hdb hdefine => ?_
            obtain ⟨columns, hcolumns, haligned⟩ := hdb.aligned
            rw [Database.define, Database.bind_table_eq_ok] at hdefine
            obtain ⟨columns', hcolumns', hdefine⟩ := hdefine
            cases hcolumns.symm.trans hcolumns'
            cases hdefine
            rwa [hfields] at haligned

theorem deleteClass_keeps {s : Store} : Keeps Database.Aligned Database.Aligned (s.deleteClass className) := by
  refine .connecting (fun _ h => h) (known_idle.bind fun known => ?_)
  refine Keeps.transaction (fun _ h => h.1) (fun before hbefore => ?_) fun _ =>
    Operation.Ensures.bind Keeps.announcing fun _ => .pure fun _ hs => hs
  obtain ⟨haligned, hknown⟩ := hbefore
  refine dropTables_inside.bind fun _ => ?_
  cases known with
  | none =>
      refine .pure fun _ hs => hs.mono fun db hdb => ?_
      rw [hdb]
      refine Database.aligned_of_no_rows fun other => ?_
      rw [Database.dropAll_rows, haligned.catalog (hknown rfl), ite_self]
  | some found =>
      refine Operation.Ensures.bind (Server.query_inside (Q := fun _ => Database.Aligned)
        fun db db' rows hdb hexecute _ => ?_) fun _ => .pure fun _ hs => hs
      have hchange := (Database.execute_eq_ok hexecute).1
      rw [Database.change, hdb] at hchange
      cases hchange
      refine haligned.dropClass fun name hname => ?_
      rcases List.mem_cons.mp hname with rfl | hname
      · exact .inl rfl
      · cases found with
        | none => cases hname
        | some t =>
            obtain ⟨field, -, rfl⟩ := List.mem_map.mp hname
            exact .inr (Database.not_isClassName_joinTable _ _)

theorem deleteClasses_keeps {s : Store} {fast : Bool} :
    Keeps Database.Aligned Database.Aligned (s.deleteClasses fast) := by
  refine .connecting (fun _ h => h) (Operation.Ensures.bind (R := fun _ => Idle Database.Aligned) ?_ fun found => ?_)
  · exact .recover (F := fun _ => Idle Database.Aligned) (Keeps.reading rfl fun _ => .ofResult) (fun _ _ _ hs => hs)
      fun _ _ hs => hs
  cases fast with
  | true =>
      refine Operation.Ensures.bind (R := fun _ => Idle Database.Aligned)
        (Keeps.reading rfl fun _ => Operation.Ensures.bind Keeps.ofResult fun _ => .pure fun _ hs => hs)
        fun existing => ?_
      refine Keeps.transaction (fun _ h => h) (fun before hbefore => .beginning hbefore ?_) fun _ => .announcing
      refine Operation.Ensures.forM (I := fun _ => Within before Database.Aligned) fun name _ _ => ?_
      refine Server.define_inside fun db db' hdb hdefine => ?_
      rw [Database.define, Database.bind_table_eq_ok] at hdefine
      obtain ⟨-, -, hdefine⟩ := hdefine
      cases hdefine
      exact hdb.clear name
  | false =>
      refine Keeps.transaction (fun _ h => h) (fun before _ => ?_) fun _ => .announcing
      refine dropTables_inside.mono (fun _ hs => hs) (fun _ _ hs => hs.mono fun db hdb => ?_) fun _ _ hs => hs
      rw [hdb]
      exact Database.aligned_dropAll (by simp)

end Store

/-- The operations that create and delete classes and fields; a schema declares each of its fields once. -/
inductive Evolution
  | createClass (schema : Schema) (hnames : (Fields.names schema.fields).Nodup)
  | addField (className field : String) (declared : Field)
  | upgrade (schema : Schema)
  | deleteFields (className : String) (fields : List String)
  | deleteClass (className : String)
  | deleteClasses (fast : Bool)

namespace Evolution

abbrev Answer : Evolution → Type
  | createClass _ _ => Schema
  | deleteClass _ => Bool
  | _ => Unit

def carryOut (s : Store) : (e : Evolution) → Operation e.Answer
  | createClass schema _ => s.createClass schema
  | addField className field declared => s.addField className field declared
  | upgrade schema => s.upgrade schema
  | deleteFields className fields => s.deleteFields className fields
  | deleteClass className => s.deleteClass className
  | deleteClasses fast => s.deleteClasses fast

/--
Operations that create nothing where something else is left or kept: a table of a class whose row is gone, a table that
is no class's, a column that no schema declares. A relation is added to classes in the catalog only.
-/
def Permitted (db : Database) : Evolution → Prop
  | createClass schema _ => Schema.IsClassName schema.className ∧ db.Tidy schema.className
  | addField className field declared => Schema.IsClassName className ∧ db.Tidy className ∧
      Schema.IsAddable className field declared.type ∧ (declared.type.isRelation = true → (db.rows className).isSome)
  | upgrade schema => Schema.IsClassName schema.className ∧ db.Tidy schema.className ∧
      ∀ e ∈ schema.fields, Schema.IsAddable schema.className e.1 e.2.type
  | _ => True

/-- An operation leaves an aligned database aligned. -/
theorem carryOut_keeps (s : Store) (e : Evolution) {db : Database} (haligned : db.Aligned)
    (hpermitted : e.Permitted db) : Store.Keeps (· = db) Database.Aligned (e.carryOut s) := by
  have hplain : ∀ db', db' = db → db'.Aligned := by
    rintro _ rfl
    exact haligned
  cases e with
  | createClass schema hnames =>
      refine (Store.createClass_keeps hpermitted.1 hnames).mono (fun db' hdb => ⟨hplain db' hdb, ?_⟩) fun _ h => h
      exact hdb ▸ hpermitted.2
  | addField className field declared =>
      obtain ⟨hclass, htidy, hadd, hrow⟩ := hpermitted
      refine (Store.addField_keeps hclass hadd).mono (fun db' hdb => ⟨hplain db' hdb, hdb ▸ htidy, fun hnone => ?_⟩)
        fun _ h => h.1
      exact hdb ▸ hrow (Bool.of_not_eq_false fun hcolumn => FieldType.isRelation_eq_false_iff.mp hcolumn hnone)
  | upgrade schema =>
      obtain ⟨hclass, htidy, hadd⟩ := hpermitted
      exact (Store.upgrade_keeps hclass hadd).mono (fun db' hdb => ⟨hplain db' hdb, hdb ▸ htidy⟩) fun _ h => h.1
  | deleteFields className fields => exact Store.deleteFields_keeps.mono hplain fun _ h => h
  | deleteClass className => exact Store.deleteClass_keeps.mono hplain fun _ h => h
  | deleteClasses fast => exact Store.deleteClasses_keeps.mono hplain fun _ h => h

/-- What an empty server comes to while stores carry out operations one after another, however each of them ends. -/
inductive Reached (permitted : Database → Evolution → Prop) : Server → Prop
  | empty : Reached permitted ⟨Database.empty, none⟩
  | carriedOut {s t : Server} {e : Evolution} {store : Store} {r : Result e.Answer} (h : Reached permitted s)
      (hpermitted : permitted s.committed e) (hleads : (e.carryOut store).Leads Step s r t) : Reached permitted t

theorem Reached.idle {s : Server} (h : Reached Permitted s) : s.Idle Database.Aligned := by
  induction h with
  | empty => exact ⟨rfl, Database.aligned_of_no_rows fun _ => rfl⟩
  | @carriedOut s t e store r h hpermitted hleads ih =>
      obtain ⟨es, hes, hserves⟩ := hleads
      have hkept := carryOut_keeps store e ih.2 hpermitted s es r t ⟨ih.1, rfl⟩ hes hserves
      cases r with
      | ok a => exact hkept
      | error f => exact hkept

end Evolution

/-! ## Operations that succeed -/

section Succeeding

variable {committed db : Database} {store : Store}

theorem addRow_leads {s : Schema} {ignoreConflict : Bool} (hcatalog : (db.tables Schema.catalogTable).isSome)
    (hrow : db.rows s.className = none) :
    (Catalog.addRow s ignoreConflict).Leads Step (Server.opened committed db) (.ok ())
      (Server.opened committed (db.setRow s.className s.toJson)) := by
  have hexecute : db.execute (.addRow s.className s.toJson ignoreConflict) = .ok (db.setRow s.className s.toJson) := by
    rw [Database.execute_of_catalog hcatalog, Database.change, hrow]
    rfl
  exact .bind (Server.query_leads [.text, .jsonb] ⟨[], 1⟩ rfl hexecute trivial) (.pure _ _)

theorem announce_leads (hsender : store.sender = none) {className : Option String} :
    (store.announce className).Leads Step ⟨db, none⟩ (.ok ()) ⟨db, none⟩ := by
  rw [Store.announce, hsender]
  exact .pure _ _

/-- A class without relations and indexes is created where there is nothing yet. -/
theorem createClass_leads (store : Store) (schema : Schema) (hclosed : store.closed = false)
    (hsender : store.sender = none) (hclass : schema.className ≠ Schema.catalogTable)
    (hcan : Database.CanHave (Definition.classColumns schema.toStorage)) (hrelations : schema.toStorage.relations = [])
    (hindexes : schema.indexes = []) :
    ∃ db : Database, (store.createClass schema).Leads Step ⟨Database.empty, none⟩ (.ok schema.toStorage.toPublic)
        ⟨db.setRow schema.className schema.toStorage.toJson, none⟩ ∧ (db.tables Schema.catalogTable).isSome ∧
      ∀ name, name ≠ Schema.catalogTable → name ≠ schema.className → db.tables name = none ∧ db.rows name = none := by
  obtain ⟨columns, hensure⟩ : ∃ columns, Database.empty.define Definition.catalogTable =
      .ok (Database.empty.setTable Schema.catalogTable columns) :=
    ⟨_, Database.define_createTable.mpr (.inr ⟨rfl, by decide, rfl⟩)⟩
  obtain ⟨columns', htable⟩ : ∃ columns', (Database.empty.setTable Schema.catalogTable columns).define
      (Definition.classTable schema.toStorage) =
        .ok ((Database.empty.setTable Schema.catalogTable columns).setTable schema.className columns') :=
    ⟨_, Database.define_createTable.mpr (.inr ⟨(Database.setTable_tables ..).trans (if_neg hclass), hcan, rfl⟩)⟩
  have hjoins : ∀ {s : Server}, (schema.toStorage.relations.forM fun field =>
      Catalog.define (.joinTable schema.className field)).Leads Step s (.ok ()) s := by
    rw [hrelations]
    exact .pure _ _
  have hcreated : ∀ {s : Server},
      (Index.createAll schema.className schema.toStorage.indexes).Leads Step s (.ok ()) s := by
    rw [show schema.toStorage.indexes = [] from hindexes]
    exact .pure _ _
  refine ⟨(Database.empty.setTable Schema.catalogTable columns).setTable schema.className columns',
    .bind (Server.connect_leads hclosed) (.bind (Server.transaction_leads (a := ()) ?_)
      (.bind (announce_leads hsender) (.pure _ _))), ?_, fun name hcatalog hname => ⟨?_, rfl⟩⟩
  · refine .bind (Server.define_leads hensure) (.bind (.bind (Server.define_leads htable) hjoins)
      (.bind (.mapError (addRow_leads ?_ ?_)) hcreated))
    · simp [Ne.symm hclass]
    · rfl
  · simp [Ne.symm hclass]
  · simp [Database.empty, hcatalog, hname]

/-- A relation is added to a class that is not in the catalog. -/
theorem addRelation_leads (store : Store) (className field target : String) (hclosed : store.closed = false)
    (hsender : store.sender = none) (hcatalog : (db.tables Schema.catalogTable).isSome)
    (hrow : db.rows className = none) (hjoin : db.tables (Schema.joinTable className field) = none) :
    ∃ columns, (store.addField className field (.ofType (.relation target))).Leads Step ⟨db, none⟩ (.ok ())
      ⟨(db.setTable (Schema.joinTable className field) columns).setRow className
        (Catalog.schemaOfField className field (.relation target)).toJson, none⟩ := by
  obtain ⟨columns, htable⟩ : ∃ columns, db.define (Definition.joinTable className field) =
      .ok (db.setTable (Schema.joinTable className field) columns) :=
    ⟨_, Database.define_createTable.mpr (.inr ⟨hjoin, by decide, rfl⟩)⟩
  have hthere : ((db.setTable (Schema.joinTable className field) columns).tables Schema.catalogTable).isSome := by
    rw [Database.setTable_tables]
    split
    · rfl
    · exact hcatalog
  refine ⟨columns, .bind (Server.connect_leads hclosed) (.bind (Server.transaction_leads (a := ()) ?_)
    (announce_leads hsender))⟩
  refine .bind (Server.define_leads htable) (.bind (Server.query_leads [.text, .text] ⟨[], 0⟩ rfl
    (Database.execute_of_catalog hthere) ?_) ?_)
  · rw [Database.Answers, Database.setTable_rows, hrow]
  · exact addRow_leads hthere hrow

end Succeeding

/-! ## Every field has its column -/

open Evolution (Reached)

/-- A class with a field that is a text. -/
def posts : Schema := ⟨"Post", [("title", .ofType .string)], none, []⟩

theorem exists_reached_posts (permitted : Database → Evolution → Prop)
    (hpermitted : permitted Database.empty (.createClass posts (by decide))) :
    ∃ db, Reached permitted ⟨db, none⟩ ∧ (db.rows "Post").isSome ∧ (db.tables Schema.catalogTable).isSome ∧
      ∀ name, name ≠ Schema.catalogTable → name ≠ "Post" → db.tables name = none ∧ db.rows name = none := by
  obtain ⟨db, hleads, hcatalog, hothers⟩ := createClass_leads (.create false false none) posts rfl rfl (by decide)
    (by decide) rfl rfl
  refine ⟨_, .carriedOut .empty hpermitted hleads, by simp [posts], hcatalog, fun name hname hpost => ?_⟩
  obtain ⟨htable, hrow⟩ := hothers name hname hpost
  exact ⟨htable, (Database.setRow_rows ..).trans ((if_neg hpost).trans hrow)⟩

/-- Whatever comes of permitted operations, every field in the catalog has its column. -/
theorem evolution_inStep {s : Server} (h : Reached Evolution.Permitted s) : s.committed.InStep :=
  h.idle.2.inStep

theorem evolution_inStep_posts : ∃ s : Server, Reached Evolution.Permitted s ∧
    (s.committed.rows "Post").isSome ∧ s.committed.InStep := by
  obtain ⟨db, hreached, hrow, -⟩ := exists_reached_posts Evolution.Permitted ⟨⟨by decide, by decide⟩, nofun⟩
  exact ⟨_, hreached, hrow, evolution_inStep hreached⟩

/--
A relation that is added to a class without a table is given a table of its own, but the class is not: it has got
fields in the catalog, and no columns for them.
-/
theorem evolution_leaves_step : ∃ s : Server, Reached (fun _ _ => True) s ∧ ¬s.committed.InStep := by
  obtain ⟨db, hreached, -, hcatalog, hnew⟩ := exists_reached_posts (fun _ _ => True) trivial
  obtain ⟨columns, hleads⟩ := addRelation_leads (.create false false none) "Comment" "authors" "_User" rfl rfl hcatalog
    (hnew _ (by decide) (by decide)).2 (hnew _ (by decide) (by decide)).1
  refine ⟨_, .carriedOut (e := .addField "Comment" "authors" (.ofType (.relation "_User"))) hreached trivial hleads,
    fun hstep => ?_⟩
  obtain ⟨s, hs, hcolumns⟩ := hstep "Comment" _ ((Database.setRow_rows ..).trans (if_pos rfl))
  obtain ⟨s', hs', -, htypes⟩ :=
    (Catalog.schemaOfField "Comment" "authors" (.relation "_User")).exists_ofJson?_toJson
  cases hs.symm.trans hs'
  have hlist : s.fieldType? "_rperm" = some (.arrayOf .string) := by
    rw [htypes]
    exact (Schema.isStored_toStorage (by decide)).lists _ (.inl rfl)
  obtain ⟨-, columns', -, htable, -⟩ := hcolumns "_rperm" _ hlist rfl
  have hnone : db.tables "Comment" = none := (hnew _ (by decide) (by decide)).1
  rw [Database.setRow_tables, Database.setTable_tables, if_neg (by decide), hnone] at htable
  cases htable

end Docstore
