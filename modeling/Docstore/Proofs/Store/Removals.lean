import Docstore.Proofs.Store.Definitions
import Docstore.Proofs.Store.Evolution
import Docstore.Proofs.Store.Growth

/-!
# Classes that are deleted

A class that was created, whatever fields have been added to it, is deleted with just the tables that were created for
it, in the transaction that removes its row from the catalog (`deleteClass_drops_created`). Its tables are told from the
row alone, which says which fields are relations as long as it is only added to (`Made.holds`).
-/

namespace Docstore

open Docstore.Engine
open Docstore.Sql (Database Definition)
open Docstore.Server (Brings Idle Step Yields)

/-! ## Rows of classes -/

namespace Sql.Database

variable {db db' : Database} {table : String}

def HasTable (table : String) (db : Database) : Prop := (db.tables table).isSome

/-- The catalog holds the document of a schema, which declares each field once. -/
structure Holds (db : Database) (stored : Schema) : Prop where
  nodup : (Fields.names stored.fields).Nodup
  catalog : db.HasTable Schema.catalogTable
  row : db.rows stored.className = some stored.toJson

/-- Definitions leave tables where they are, unless they drop them. -/
theorem HasTable.of_define {d : Definition} (hthere : db.HasTable table) (hdefine : db.define d = .ok db')
    (hd : table ∉ d.dropped?) : db'.HasTable table := by
  have hset : ∀ {name : String} {columns : Columns}, (db.setTable name columns).HasTable table := by
    intro name columns
    rw [HasTable, setTable_tables]
    split
    · rfl
    · exact hthere
  have hclear : ∀ {name : String}, (db.clear name).HasTable table := by
    intro name
    rw [clear]
    split
    · exact hthere
    · exact hthere
  cases d with
  | createTable name columns keys =>
      rcases define_createTable.mp hdefine with ⟨-, rfl⟩ | ⟨-, -, rfl⟩
      · exact hthere
      · exact hset
  | dropTable name =>
      cases hdefine
      rw [HasTable, drop_tables, if_neg fun h : table = name => hd (congrArg some h.symm)]
      exact hthere
  | addColumn name column =>
      obtain ⟨columns, -, -, rfl⟩ := define_addColumn.mp hdefine
      exact hset
  | dropColumns name names =>
      obtain ⟨columns, -, hdone⟩ := bind_table_eq_ok.mp hdefine
      cases hdone
      exact hset
  | truncate name =>
      obtain ⟨columns, -, hdone⟩ := bind_table_eq_ok.mp hdefine
      cases hdone
      exact hclear
  | createIndex index name keys unique =>
      obtain ⟨columns, -, hdone⟩ := bind_table_eq_ok.mp hdefine
      split at hdone
      · cases hdone
        exact hthere
      · cases hdone
  | dropIndex name =>
      cases hdefine
      exact hthere

end Sql.Database

open Sql.Database (HasTable)

namespace Catalog

variable {committed db db' : Database} {table className field : String} {declared : Field} {stored : Schema}
  {doc : Json}

/-! ## Fields that are added -/

/-- What is added to a class leaves every table where it is. -/
theorem addition_keeps : Yields committed (HasTable table)
    (do addStorage className field declared.type; addEntry className field declared : Operation Unit)
    fun _ => HasTable table := by
  have hdefine : ∀ {d : Definition}, table ∉ d.dropped? → Yields committed (HasTable table) (define d)
      fun _ => HasTable table :=
    fun hd => Server.define_yields fun _ _ hthere hdefine => hthere.of_define hdefine hd
  have hquery : ∀ q, Yields committed (HasTable table) (query q) fun _ => HasTable table :=
    fun q => Server.query_yields (Q := fun _ => HasTable table) fun db db' _ hthere hexecute _ => by
      rwa [HasTable, Database.tables_of_change (Database.execute_eq_ok hexecute).1]
  have haddRow : ∀ stored, Yields committed (HasTable table) (addRow stored true) fun _ => HasTable table :=
    fun _ => (hquery _).bind fun _ => .pure fun _ hs => hs
  refine Operation.Ensures.bind (R := fun _ => Server.Running committed (HasTable table)) ?_ fun _ => ?_
  · rw [addStorage]
    cases declared.type.column? with
    | none => exact hdefine (Option.not_mem_none _)
    | some column =>
        refine Operation.Ensures.bind (R := fun _ => Server.Running committed (HasTable table))
          (Server.attempt_yields (Q := fun _ => HasTable table)
            (fun _ _ hthere hdefine => hthere.of_define hdefine (Option.not_mem_none _)) fun _ _ hthere _ _ => hthere)
          fun failure => ?_
        show Yields committed _ (if _ then _ else _) _
        split
        · refine (hdefine (Option.not_mem_none _)).bind fun _ => Operation.Ensures.bind ?_ fun _ => haddRow _
          exact (hdefine (Option.not_mem_none _)).bind fun _ => .forM
            (I := fun _ => Server.Running committed (HasTable table)) fun _ _ _ => hdefine (Option.not_mem_none _)
        · exact .pure fun _ hs => hs
  · refine (hquery _).bind fun answer => ?_
    cases answer.rows with
    | nil => exact haddRow _
    | cons row _ =>
        refine Operation.Ensures.bind (R := fun _ => Server.Running committed (HasTable table))
          (.ofResult (fun _ _ _ hs => hs) fun _ _ _ _ => trivial) fun entry => ?_
        cases entry with
        | some entry => exact .ofResult (fun _ _ _ hs => hs) fun _ _ _ _ => trivial
        | none => exact (hquery _).bind fun _ => .pure fun _ hs => hs

/-- The row of a class with a field that is added: it is set in the row, or was declared in it. -/
def Extends (field : String) (declared : Field) (doc doc' : Json) : Prop :=
  Database.entryOf? doc field = none ∧ doc' = Json.setAt declared.toJson (fieldPath field) doc ∨
    doc' = doc ∧ Tells doc field declared.type

theorem extends_of_row {new : Json} (hdoc : db.rows className = some doc)
    (h : db.rows className = none ∧ db'.rows className = some new ∨
      ∃ doc, db.rows className = some doc ∧
        (Database.entryOf? doc field = none ∧
            db'.rows className = some (Json.setAt declared.toJson (fieldPath field) doc) ∨
          db'.rows className = some doc ∧ Tells doc field declared.type)) :
    ∃ doc', db'.rows className = some doc' ∧ Extends field declared doc doc' := by
  rcases h with ⟨hnone, -⟩ | ⟨_, hdoc', ⟨hentry, hrow⟩ | ⟨hrow, htells⟩⟩
  · cases hdoc.symm.trans hnone
  · cases hdoc.symm.trans hdoc'
    exact ⟨_, hrow, .inl ⟨hentry, rfl⟩⟩
  · cases hdoc.symm.trans hdoc'
    exact ⟨_, hrow, .inr ⟨rfl, htells⟩⟩

/-- A schema with a field more has the relations that it had, and the field if it is one. -/
theorem Extends.exists_stored {doc' : Json} (h : Extends field declared stored.toJson doc')
    (hnames : (Fields.names stored.fields).Nodup) : ∃ stored' : Schema, doc' = stored'.toJson ∧
      stored'.className = stored.className ∧ (Fields.names stored'.fields).Nodup ∧
        ∀ name, name ∈ stored'.relations ↔
          name ∈ stored.relations ∨ name = field ∧ declared.type.isRelation = true := by
  rcases h with ⟨hentry, rfl⟩ | ⟨rfl, entry, kept, f, hentry, hkept, hf, htype⟩
  · have hnew : stored.fieldType? field = none := by
      rw [Schema.entryOf?_toJson, Option.map_eq_none_iff] at hentry
      rw [Schema.fieldType?, hentry]
      rfl
    have hnames' : (Fields.names (stored.fields.insert field declared)).Nodup := Fields.nodup_insert hnames
    refine ⟨_, Schema.setAt_field .., rfl, hnames', fun name => ?_⟩
    rw [Schema.mem_relations hnames, Schema.mem_relations hnames', Schema.fieldType?_insert]
    by_cases hname : name = field
    · subst hname
      simp [hnew]
    · simp [hname]
  · rw [Schema.entryOf?_toJson] at hentry
    obtain ⟨f', hf', rfl⟩ := Option.map_eq_some_iff.mp hentry
    obtain ⟨f'', hf'', hsame⟩ := Field.ofJson?_kept hkept
    cases hf.symm.trans hf''
    refine ⟨stored, rfl, rfl, hnames, fun name => ⟨.inl, ?_⟩⟩
    rintro (hname | ⟨rfl, hrelation⟩)
    · exact hname
    · refine (Schema.mem_relations hnames).mpr ⟨declared.type, ?_, hrelation⟩
      rw [Schema.fieldType?, hf', ← htype, hsame]
      rfl

end Catalog

/-- What listeners are told: nothing stops where that fails. -/
def Engine.Exchange.IsNews (e : Exchange) : Prop := e.request.connection = .listener

theorem Engine.not_isNews {request : Request} {reply : request.Reply} (h : request.connection = .pooled) :
    ¬Exchange.IsNews ⟨request, reply⟩ := by
  intro hnews
  cases h.symm.trans hnews

namespace Store

variable {s t : Server} {store : Store} {committed db : Database} {stored : Schema} {className field : String}
  {declared : Field} {doc : Json} {es : List Exchange}

theorem addField_extends (hcatalog : db.HasTable Schema.catalogTable) (hdoc : db.rows className = some doc) :
    Brings (· = db) (store.addField className field declared) fun _ db' =>
      ∃ doc', db'.rows className = some doc' ∧ Catalog.Extends field declared doc doc' := by
  cases hrelation : declared.type.isRelation with
  | false =>
      have hne : db.tables className = none → className ≠ Schema.catalogTable := by
        rintro hmissing rfl
        rw [HasTable, hmissing] at hcatalog
        cases hcatalog
      exact (addField_brings hrelation hne).mono (fun _ hs => hs)
        (fun _ _ hs => hs.mono fun db' hgrown => Catalog.extends_of_row hdoc hgrown.row_cases) fun _ _ h => h
  | true =>
      refine Server.connect_brings.bind fun _ => (Server.transaction_yields ?_).bind fun _ => Server.announce_brings
      rw [Catalog.addStorage, FieldType.column?_eq_none hrelation]
      have hdefine : Yields db (· = db) (Catalog.define (.joinTable className field))
          fun _ mid => mid.rows = db.rows := by
        refine Server.define_yields fun db₀ mid hdb hdefine => ?_
        subst hdb
        rcases Database.define_createTable.mp hdefine with ⟨-, rfl⟩ | ⟨-, -, rfl⟩
        · rfl
        · rfl
      refine hdefine.bind fun _ => Server.Yields.each fun mid hrows => ?_
      refine Catalog.addEntry_yields.mono (fun _ hs => hs) (fun _ _ hs => hs.mono fun db' hnoted => ?_) fun _ _ h => h
      exact Catalog.extends_of_row (by rw [hrows]; exact hdoc) hnoted.row.2

/-- The row of a class says which relations it has, also after a field has been added. -/
theorem addField_holds (h : db.Holds stored) :
    Brings (· = db) (store.addField stored.className field declared) fun _ db' =>
      ∃ stored' : Schema, db'.Holds stored' ∧ stored'.className = stored.className ∧
        ∀ name, name ∈ stored'.relations ↔
          name ∈ stored.relations ∨ name = field ∧ declared.type.isRelation = true := by
  have hkeeps : Brings (· = db) (store.addField stored.className field declared) fun _ =>
      HasTable Schema.catalogTable := by
    refine Server.connect_brings.bind fun _ => (Server.transaction_yields ?_).bind fun _ => Server.announce_brings
    refine Catalog.addition_keeps.mono (fun _ hs => hs.mono fun db' hdb => ?_) (fun _ _ hs => hs) fun _ _ h => h
    rw [hdb]
    exact h.catalog
  intro s es r t hs hes hserves
  have hcatalog := hkeeps s es r t hs hes hserves
  have hextends := addField_extends h.catalog h.row s es r t hs hes hserves
  cases r with
  | error f => trivial
  | ok u =>
      obtain ⟨doc', hrow, hdoc'⟩ := hextends.2
      obtain ⟨stored', rfl, hclass, hnames, hrelations⟩ := hdoc'.exists_stored h.nodup
      exact ⟨hextends.1, stored', ⟨hnames, hcatalog.2, by rw [hclass]; exact hrow⟩, hclass, hrelations⟩

/-! ## Deletion -/

/-- The tables of a class that is stored, as they are told from a schema that is read. -/
def Names (stored found : Schema) : Prop :=
  ∀ name, name ∈ stored.className :: found.joinTables ↔ name ∈ tablesOf stored

/-- What is read of the row of a class before it is deleted names its tables. -/
theorem known_brings (h : db.Holds stored) :
    Brings (· = db) (Operation.recover Error.isMissing none (some <$> Catalog.schema? stored.className))
      fun known db' => db' = db ∧ ∃ found, known = some (some found) ∧ Names stored found := by
  have hread : (Catalog.schema? stored.className).Ensures Step (Idle (· = db))
      (fun known => Idle fun db' => db' = db ∧ ∃ found, known = some found ∧ Names stored found)
      fun f => Idle fun db' => db' = db ∧ (f.isMissing = true → db'.tables Schema.catalogTable = none) := by
    refine Catalog.schema?_ensures (Q := fun known db' => db' = db ∧ ∃ found, known = some found ∧ Names stored found)
      (F := Idle) (fun h hs => hs.mono h)
      (Server.read_idle (Q := fun rows db' => db' = db ∧ db'.Answers (.row stored.className) rows) rfl
        fun _ _ hdb ha => ⟨hdb, ha⟩) ?_ ?_ fun f s hs => hs.2.elim
    · rintro _ rfl hnone
      cases h.row.symm.trans hnone
    · rintro _ doc r rfl hdoc hr
      cases h.row.symm.trans hdoc
      obtain ⟨found, hfound, hclass, hnames, htypes⟩ := Catalog.exists_schemaOf hr
      refine ⟨found, hfound, rfl, found, rfl, fun name => ?_⟩
      rw [← hclass]
      show name ∈ tablesOf found ↔ _
      simp only [mem_tablesOf, Schema.mem_relations hnames, Schema.mem_relations h.nodup, htypes, hclass]
  rw [Operation.map_eq]
  refine .recover (hread.bind fun known => .pure fun s hs => hs.mono ?_) (fun e s haccepts hs => ?_)
    fun _ _ _ => trivial
  · rintro _ ⟨rfl, found, rfl, htables⟩
    exact ⟨rfl, found, rfl, htables⟩
  · obtain ⟨-, hdb, hmissing⟩ := hs
    have hcatalog := h.catalog
    rw [HasTable, ← hdb, hmissing haccepts] at hcatalog
    cases hcatalog

theorem query_prevails (q : Sql.CatalogStatement) : (Catalog.query q).Prevails Exchange.IsNews :=
  .query (fun _ => not_isNews rfl) fun _ _ => not_isNews rfl

/-- The row of a class is read wherever the server answers. -/
theorem schema?_prevails {r : Result (Option Schema)} (h : db.Holds stored) (hs : s.Idle (· = db))
    (hes : (Catalog.schema? stored.className).run.Converses es r) (hserves : Service.Serves Step s es t)
    (hgoes : ∀ e ∈ es, e.GoesOn ∨ e.IsNews) : ∃ known, r = .ok known := by
  rcases Operation.converses_bind.mp hes with ⟨answer, xs, ys, rfl, hquery, hrest⟩ | ⟨f, hquery, -⟩
  · obtain ⟨u, hserves, -⟩ := Service.serves_append.mp hserves
    have hanswer : u.Idle fun _ => db.Answers (.row stored.className) answer.rows := by
      refine Server.read_idle (Q := fun rows _ => db.Answers (.row stored.className) rows) rfl ?_ s xs _ u hs hquery
        hserves
      rintro _ rows rfl ha
      exact ha
    have hrows := hanswer.2
    rw [Database.Answers, h.row] at hrows
    obtain ⟨row, hrow, hshows⟩ := hrows
    obtain ⟨found, hfound, -⟩ := Catalog.exists_schemaOf hshows
    rw [hrow] at hrest
    dsimp only at hrest
    rw [hfound] at hrest
    exact ⟨_, (Operation.converses_pure.mp hrest).2⟩
  · obtain ⟨_, hanswer⟩ := query_prevails _ _ _ hquery hgoes
    cases hanswer

theorem known_prevails {r : Result (Option (Option Schema))} (h : db.Holds stored) (hs : s.Idle (· = db))
    (hes : (Operation.recover Error.isMissing none (some <$> Catalog.schema? stored.className)).run.Converses es r)
    (hserves : Service.Serves Step s es t) (hgoes : ∀ e ∈ es, e.GoesOn ∨ e.IsNews) : ∃ known, r = .ok known := by
  obtain ⟨r', xs, ys, rfl, hread, hys⟩ := Program.converses_bind.mp hes
  obtain ⟨u, hserves, -⟩ := Service.serves_append.mp hserves
  rw [Operation.map_eq] at hread
  rcases Operation.converses_bind.mp hread with ⟨known, zs, ws, rfl, -, hpure⟩ | ⟨f, hread, -⟩
  · obtain ⟨-, rfl⟩ := Operation.converses_pure.mp hpure
    exact ⟨_, (Program.converses_done.mp hys).2⟩
  · obtain ⟨_, hknown⟩ := schema?_prevails h hs hread hserves fun e he => hgoes e (List.mem_append_left _ he)
    cases hknown

/-- Tables of a class are dropped, and its row is removed. -/
def removeClass (className : String) (tables : List String) : Operation Unit := do
  dropTables tables
  let _ ← Catalog.query (.removeRow className)

theorem removeClass_defines {tables : List String} :
    (removeClass className tables).Defines (tables.map .dropTable) :=
  (Operation.Defines.forM (fun _ => .define _) tables).followed fun _ =>
    (Catalog.query_undefining _).bind fun _ => .pure ()

theorem removeClass_yields {tables : List String} : Yields committed (· = committed) (removeClass className tables)
    fun _ db => db = (committed.dropAll tables).dropRow className := by
  have hdrop : Yields committed (· = committed) (dropTables tables) fun _ db => db = committed.dropAll tables := by
    refine (Operation.Ensures.forM
      (I := fun rest => Server.Running committed fun db => db.dropAll rest = committed.dropAll tables)
      fun name _ rest => Server.define_yields fun db db' hdb hdefine => ?_).mono
      (fun s (hs : s.Running committed (· = committed)) => hs.mono fun db hdb => by rw [hdb]) (fun _ _ hs => hs)
      fun _ _ h => h
    cases hdefine
    exact hdb
  refine hdrop.bind fun _ => Operation.Ensures.bind
    (Server.query_yields (Q := fun _ db => db = (committed.dropAll tables).dropRow className)
      fun db db' _ hdb hexecute _ => ?_) fun _ => .pure fun _ hs => hs
  subst hdb
  have hchange := (Database.execute_eq_ok hexecute).1
  cases hchange
  rfl

/-- Where a class is removed, nothing else is written to the catalog. -/
theorem removeClass_inside {tables : List String} {u : Unit}
    (h : (removeClass className tables).run.Converses es (.ok u)) :
    (∀ e ∈ es, e.request.IsInside .pooled) ∧ catalogWrites es = [.removeRow className] := by
  have hinside : (removeClass className tables).Follows .guarded :=
    (dropTables_follows Discipline.guarded_isLenient).bind fun _ =>
      (Catalog.query_follows Discipline.guarded_isLenient _).bind fun _ => .pure ()
  refine ⟨fun e he => ((hinside es _ h).1 e he).1, ?_⟩
  obtain ⟨_, xs, ys, rfl, hdrop, hys⟩ := Operation.converses_bind_ok.mp h
  obtain ⟨answer, zs, ws, rfl, hremove, hpure⟩ := Operation.converses_bind_ok.mp hys
  have hnothing : catalogWrites xs = [] := by
    have hsend : (dropTables tables).Follows (.asking fun r => ∃ c command, r = .send c command) :=
      .forM fun _ => .send ⟨_, _, rfl⟩
    refine List.filterMap_eq_nil_iff.mpr fun ⟨request, reply⟩ he => ?_
    obtain ⟨c, command, rfl⟩ := (hsend xs _ hdrop).1 _ he
    rfl
  rw [catalogWrites_append, catalogWrites_append, hnothing,
    (Operation.converses_query_ok.mp hremove).catalogWrites_eq, (Operation.converses_pure.mp hpure).1]
  rfl

/--
The states in which the catalog holds a class as it was created, with the fields that have been added to it, and what
was said when that was done. In between, anything may happen that leaves the row of the class as it is.
-/
inductive Made (schema : Schema) : Server → List Exchange → Prop
  | created {store : Store} {answer : Schema} {es : List Exchange} {s : Server}
      (hes : (store.createClass schema).run.Converses es (.ok answer))
      (hs : s.Idle fun db => db.HasTable Schema.catalogTable ∧
        db.rows schema.className = some schema.toStorage.toJson) : Made schema s es
  | added {store : Store} {field : String} {declared : Field} {made es : List Exchange} {s t : Server}
      (h : Made schema s made) (hes : (store.addField schema.className field declared).run.Converses es (.ok ()))
      (hserves : Service.Serves Step s es t) : Made schema t (made ++ es)
  | kept {made : List Exchange} {s t : Server} (h : Made schema s made)
      (ht : t.Idle fun db => db.HasTable Schema.catalogTable ∧
        db.rows schema.className = s.committed.rows schema.className) : Made schema t made

/-- The tables that were created are those that the row of the class tells of. -/
theorem Made.holds {schema : Schema} {made : List Exchange} (hnames : (Fields.names schema.fields).Nodup)
    (h : Made schema s made) : ∃ stored : Schema, stored.className = schema.className ∧ s.Idle (·.Holds stored) ∧
      ∀ name, name ∈ createdTables made ↔ name ∈ tablesOf stored := by
  induction h with
  | @created store answer es s hes hs =>
      refine ⟨schema.toStorage, rfl, hs.mono fun db hdb => ?_, fun name => by rw [createClass_creates hes]⟩
      exact ⟨(Schema.isStored_toStorage hnames).nodup, hdb.1, hdb.2⟩
  | @added store field declared made es s t _ hes hserves ih =>
      obtain ⟨stored, hclass, hs, htables⟩ := ih
      rw [← hclass] at hes
      obtain ⟨ht, stored', hstored', hclass', hrelations⟩ :=
        addField_holds hs.2 s es _ t ⟨hs.1, rfl⟩ hes hserves
      refine ⟨stored', hclass'.trans hclass, ⟨ht, hstored'⟩, fun name => ?_⟩
      have hcreates := addField_creates hes name
      rw [createdTables_append, List.mem_append, htables, mem_tablesOf, mem_tablesOf, hclass']
      simp only [hrelations]
      constructor
      · rintro ((hname | ⟨other, hother, hname⟩) | hname)
        · exact .inl hname
        · exact .inr ⟨other, .inl hother, hname⟩
        · exact (hcreates.mp (.inr hname)).imp_right fun h => ⟨field, .inr ⟨rfl, h.1⟩, h.2⟩
      · rintro (hname | ⟨other, hother | ⟨rfl, hrelation⟩, hname⟩)
        · exact .inl (.inl hname)
        · exact .inl (.inr ⟨other, hother, hname⟩)
        · exact (hcreates.mpr (.inr ⟨hrelation, hname⟩)).imp_left .inl
  | @kept made s t _ ht ih =>
      obtain ⟨stored, hclass, hs, htables⟩ := ih
      refine ⟨stored, hclass, ht.mono fun db hdb => ⟨hs.2.nodup, hdb.1, ?_⟩, htables⟩
      rw [hclass, hdb.2, ← hclass]
      exact hs.2.row

/-- What it is to delete a class with just the tables that were created for it. -/
structure Removed (className : String) (created : List String) (es : List Exchange) (s t : Server) : Prop where
  dropped : ∀ name, name ∈ droppedTables es ↔ name ∈ created
  /-- Its tables are dropped in the transaction in which its row, and nothing else, is removed from the catalog. -/
  together : ∃ before inside after, es = before ++ begun :: inside ++ Engine.committed :: after ∧
    (∀ e ∈ inside, e.request.IsInside .pooled) ∧ droppedTables inside = droppedTables es ∧
    catalogWrites inside = catalogWrites es ∧ catalogWrites es = [.removeRow className]
  gone : t.Idle fun db => db.rows className = none ∧
    ∀ name, db.tables name = if name ∈ created then none else s.committed.tables name

/-- What is done once the tables of a class are known. -/
def removal (store : Store) (className : String) (tables : List String) : Operation Bool := do
  Operation.transaction (removeClass className tables)
  store.announce className
  return !Schema.isJoinTable className

theorem catalogWrites_of_reading (h : ∀ e ∈ es, e.request.IsReading) : catalogWrites es = [] := by
  refine List.filterMap_eq_nil_iff.mpr fun ⟨request, reply⟩ he => ?_
  have hwrites : request.writes = false := (h _ he).writes
  cases request with
  | execute c p arguments =>
      cases p with
      | catalog q =>
          have hq : q.writes = false := hwrites
          rw [Exchange.catalogWrite?, hq]
          rfl
      | _ => rfl
  | _ => rfl

theorem removal_prevails {tables : List String} : (store.removal className tables).Prevails Exchange.IsNews := by
  have hremove : (removeClass className tables).Prevails Exchange.IsNews := by
    refine Operation.Prevails.bind (.forM fun _ => .send fun _ => not_isNews rfl) fun _ => ?_
    exact (query_prevails _).bind fun _ => .pure ()
  refine (hremove.transaction fun _ _ => not_isNews rfl).bind fun _ => Operation.Prevails.bind ?_ fun _ => .pure _
  exact fun es r hes _ => ⟨(), (converses_announce.mp hes).1⟩

/--
The deletion of a class fails while it reads the catalog, which takes a request that fails, or goes on with the tables
of which the row tells.
-/
theorem deleteClass_reads {r : Result Bool} (hs : s.Idle (·.Holds stored))
    (h : (store.deleteClass stored.className).run.Converses es r) (hserves : Service.Serves Step s es t) :
    (∃ f, r = .error f) ∧ (∀ e ∈ es, e.request.IsReading) ∧
        (store.closed = false → ¬∀ e ∈ es, e.GoesOn ∨ e.IsNews) ∨
      ∃ before rest u tables, es = before ++ rest ∧ (∀ e ∈ before, e.request.IsReading) ∧
        (∀ name, name ∈ tables ↔ name ∈ tablesOf stored) ∧ u.Idle (· = s.committed) ∧
          Service.Serves Step u rest t ∧ (store.removal stored.className tables).run.Converses rest r := by
  have hreads : (Operation.recover Error.isMissing none (some <$> Catalog.schema? stored.className)).Follows .reading :=
    .recover _ _ ((Catalog.schema?_follows Discipline.reading_permitsReading).map _).always
  rcases Operation.converses_bind.mp h with ⟨_, xs, ys, rfl, hconnect, hys⟩ | ⟨f, hconnect, rfl⟩
  · have hxs : ∀ e ∈ xs, e.request.IsReading := (connect_reads xs _ hconnect).1
    obtain ⟨t₁, hserves₁, hserves⟩ := Service.serves_append.mp hserves
    have ht₁ : t₁.Idle (· = s.committed) := Server.connect_brings (P := (· = s.committed)) s xs _ t₁
      ⟨hs.1, rfl⟩ hconnect hserves₁
    rcases Operation.converses_bind.mp hys with ⟨known, zs, rest, rfl, hknown, hrest⟩ | ⟨f, hknown, rfl⟩
    · obtain ⟨u, hserves₂, hserves⟩ := Service.serves_append.mp hserves
      obtain ⟨hidle, hdb, found, rfl, htables⟩ := known_brings hs.2 t₁ zs _ u ht₁ hknown hserves₂
      exact .inr ⟨xs ++ zs, rest, u, _, (List.append_assoc ..).symm,
        List.forall_mem_append.mpr ⟨hxs, (hreads zs _ hknown).1⟩, htables, ⟨hidle, hdb⟩, hserves, hrest⟩
    · refine .inl ⟨⟨f, rfl⟩, List.forall_mem_append.mpr ⟨hxs, (hreads ys _ hknown).1⟩, fun _ hgoes => ?_⟩
      obtain ⟨_, hread⟩ := known_prevails hs.2 ht₁ hknown hserves (List.forall_mem_append.mp hgoes).2
      cases hread
  · refine .inl ⟨⟨f, rfl⟩, (connect_reads es _ hconnect).1, fun hopen hgoes => ?_⟩
    obtain ⟨_, hopened⟩ := connect_prevails hopen (fun _ => not_isNews rfl) _ _ hconnect hgoes
    cases hopened

theorem removal_drops {tables : List String} {r : Result Bool}
    (h : (store.removal className tables).run.Converses es r) :
    droppedTables es <+: tables ∧ ∀ b, r = .ok b → droppedTables es = tables := by
  have hdefines : (store.removal className tables).Defines (tables.map .dropTable) :=
    removeClass_defines.transaction.followed fun _ => announce_undefining.bind fun _ => .pure _
  have htables : (tables.map Definition.dropTable).filterMap Definition.dropped? = tables := by
    rw [List.filterMap_map]
    exact List.filterMap_some
  obtain ⟨hpart, hall⟩ := hdefines es r h
  refine ⟨?_, fun b hb => ?_⟩
  · have hdropped := hpart.filterMap Definition.dropped?
    rwa [htables] at hdropped
  · rw [droppedTables, hall b hb, htables]

theorem removal_brings {tables : List String} : Brings (· = db) (store.removal className tables) fun _ db' =>
    db' = (db.dropAll tables).dropRow className :=
  (Server.transaction_yields removeClass_yields).bind fun _ => Server.announce_brings.bind fun _ => .pure fun _ hs => hs

/-- Where a class is removed, this is done in one transaction. -/
theorem removal_commits {tables : List String} {b : Bool}
    (h : (store.removal className tables).run.Converses es (.ok b)) : ∃ inside after,
      es = begun :: inside ++ Engine.committed :: after ∧ (∀ e ∈ inside, e.request.IsInside .pooled) ∧
      definitions inside = definitions es ∧ catalogWrites inside = catalogWrites es ∧
        catalogWrites es = [.removeRow className] := by
  obtain ⟨_, xs, ys, rfl, htransaction, hys⟩ := Operation.converses_bind_ok.mp h
  obtain ⟨_, after, zs, rfl, hannounce, hpure⟩ := Operation.converses_bind_ok.mp hys
  obtain ⟨inside, rfl, hinside⟩ := Operation.converses_transaction_ok.mp htransaction
  obtain ⟨rfl, -⟩ := Operation.converses_pure.mp hpure
  obtain ⟨hin, hwrites⟩ := removeClass_inside hinside
  have hcloses : store.Closes className inside
      (.ofSuccess (.connect .pooled) () :: begun :: inside ++ Engine.committed :: after) (.ok ()) :=
    .committed (converses_announce.mp hannounce).2
  have hes : begun :: inside ++ [Engine.committed] ++ (after ++ []) = begun :: inside ++ Engine.committed :: after := by
    simp
  refine ⟨inside, after, hes, hin, ?_, ?_, ?_⟩
  · rw [hes]
    exact hcloses.definitions_eq.symm
  · rw [hes]
    exact hcloses.catalogWrites_eq.symm
  · rw [hes, ← hwrites]
    exact hcloses.catalogWrites_eq

theorem dropTables_leads {before : Database} (tables : List String) : (dropTables tables).Leads Step
    (Server.opened before db) (.ok ()) (Server.opened before (db.dropAll tables)) := by
  induction tables generalizing db with
  | nil => exact .pure _ _
  | cons name tables ih => exact .bind (Server.define_leads rfl) ih

/-- The catalog stays where the tables of a class are dropped, whose names are others. -/
theorem hasTable_dropAll {found : Schema} (h : db.HasTable Schema.catalogTable)
    (hclass : found.className ≠ Schema.catalogTable) :
    (db.dropAll (tablesOf found)).HasTable Schema.catalogTable := by
  rw [HasTable, Database.dropAll_tables, if_neg]
  · exact h
  · rw [mem_tablesOf, not_or]
    refine ⟨hclass.symm, ?_⟩
    rintro ⟨field, -, hname⟩
    have hmark : Schema.isJoinTable (Schema.joinTable found.className field) = true := by
      simp [Schema.isJoinTable, Schema.joinTable, Schema.joinMark]
    rw [← hname] at hmark
    cases hmark

/-- A class can be deleted wherever its row can be read. -/
theorem deleteClass_leads (store : Store) {r : Wire.Row} (hclosed : store.closed = false)
    (hsender : store.sender = none) (h : db.Holds stored) (hr : r.Shows stored.toJson)
    (hclass : stored.className ≠ Schema.catalogTable) : ∃ t, (store.deleteClass stored.className).Leads Step
      ⟨db, none⟩ (.ok (!Schema.isJoinTable stored.className)) t := by
  obtain ⟨found, hfound, hnamed, -⟩ := Catalog.exists_schemaOf hr
  have hrow : db.Answers (.row stored.className) [r] := by
    rw [Database.Answers, h.row]
    exact ⟨r, rfl, hr⟩
  have hknown : (Operation.recover Error.isMissing none (some <$> Catalog.schema? stored.className)).Leads Step
      ⟨db, none⟩ (.ok (some (some found))) ⟨db, none⟩ := by
    rw [Operation.map_eq]
    refine .recover (.bind (.bind (Server.read_leads [.text] ⟨[r], 1⟩ rfl rfl h.catalog hrow) ?_) (.pure _ _))
    exact .bind (.ofResult hfound) (.pure _ _)
  rw [← hnamed] at hknown hclass ⊢
  have hremove : (removeClass found.className (tablesOf found)).Leads Step (Server.opened db db) (.ok ())
      (Server.opened db ((db.dropAll (tablesOf found)).dropRow found.className)) := by
    have hcatalog := hasTable_dropAll h.catalog hclass
    refine .bind (dropTables_leads _) (.bind (b := ⟨[], 1⟩) ?_ (.pure _ _))
    exact Server.query_leads [.text] _ rfl (Database.execute_of_catalog hcatalog) trivial
  exact ⟨_, .bind (Server.connect_leads hclosed) (.bind hknown (.bind (Server.transaction_leads hremove)
    (.bind (announce_leads hsender) (.pure _ _))))⟩

/--
A class is deleted with just the tables that were created for it and for the fields that have been added, and its row
with them. That takes an open store and a server that answers what it is asked, and where it fails, no other tables have
been dropped either.
-/
theorem deleteClass_drops_created {schema : Schema} {made : List Exchange} {r : Result Bool}
    (hnames : (Fields.names schema.fields).Nodup) (hmade : Made schema s made)
    (h : (store.deleteClass schema.className).run.Converses es r) (hserves : Service.Serves Step s es t) :
    (∀ b, r = .ok b → Removed schema.className (createdTables made) es s t) ∧
      (store.closed = false → (∀ e ∈ es, e.GoesOn ∨ e.IsNews) → ∃ b, r = .ok b) ∧
      ∀ name ∈ droppedTables es, name ∈ createdTables made := by
  obtain ⟨stored, hclass, hs, hcreated⟩ := hmade.holds hnames
  rw [← hclass] at h ⊢
  rcases deleteClass_reads hs h hserves with ⟨⟨f, rfl⟩, hreading, hstops⟩ |
    ⟨before, rest, u, tables, rfl, hbefore, htables, hu, hserves, hrest⟩
  · refine ⟨nofun, fun hopen hgoes => absurd hgoes (hstops hopen), fun name hname => ?_⟩
    rw [droppedTables, definitions_of_reading hreading] at hname
    cases hname
  · have hdropped : droppedTables (before ++ rest) = droppedTables rest := by
      rw [droppedTables, definitions_append, definitions_of_reading hbefore, List.nil_append]
      rfl
    have hmem : ∀ name, name ∈ tables ↔ name ∈ createdTables made :=
      fun name => (htables name).trans (hcreated name).symm
    obtain ⟨hpart, hall⟩ := removal_drops hrest
    refine ⟨?_, fun _ hgoes => removal_prevails _ _ hrest (List.forall_mem_append.mp hgoes).2,
      fun name hname => (hmem name).mp (hpart.subset (hdropped ▸ hname))⟩
    rintro b rfl
    have hdb : t.Idle (· = (s.committed.dropAll tables).dropRow stored.className) :=
      removal_brings u rest _ t hu hrest hserves
    obtain ⟨inside, after, hrest', hinside, hdefinitions, hwrites, hremove⟩ := removal_commits hrest
    have hread : catalogWrites (before ++ rest) = catalogWrites rest := by
      rw [catalogWrites_append, catalogWrites_of_reading hbefore, List.nil_append]
    refine ⟨fun name => ?_, ⟨before, inside, after, ?_, hinside, ?_, ?_, ?_⟩, hdb.mono ?_⟩
    · rw [hdropped, hall b rfl, hmem]
    · rw [hrest']
      simp
    · rw [hdropped, droppedTables, hdefinitions]
      rfl
    · rw [hread, hwrites]
    · rw [hread, hremove]
    · rintro _ rfl
      refine ⟨(Database.dropRow_rows ..).trans (if_pos rfl), fun name => ?_⟩
      rw [Database.dropRow_tables, Database.dropAll_tables]
      simp only [hmem]

/-! ## A class with two relations -/

/-- A class with a relation. -/
def blog : Schema := ⟨"Post", [("authors", .ofType (.relation "_User"))], none, []⟩

/-- A field with which the class grows. -/
def readers : Field := .ofType (.relation "_User")

/-- The class as it is stored in the end. -/
def grownBlog : Schema := { blog.toStorage with fields := blog.toStorage.fields.insert "readers" readers }

set_option maxRecDepth 10000 in
theorem parse?_grownBlog : Json.parse? grownBlog.toJson.print = some grownBlog.toJson := by cbv

theorem grownBlog_kept : grownBlog.toJson.Kept grownBlog.toJson :=
  Schema.toJson_kept [("authors", .relation "_User"), ("_wperm", .arrayOf .string), ("_rperm", .arrayOf .string),
    ("readers", .relation "_User")] rfl (by decide) rfl rfl

/-- The catalog with the class as it was created. -/
def newBlog : Database :=
  (Database.empty.setTable Schema.catalogTable fun _ => none).setRow "Post" blog.toStorage.toJson

/-- The catalog once the table of the new relation is there. -/
def joinedBlog : Database :=
  newBlog.setTable "_Join:readers:Post"
    (Database.columnsOf [⟨"relatedId", .varchar 120⟩, ⟨"owningId", .varchar 120⟩])

/-- The catalog once the new relation is recorded. -/
def recordedBlog : Database :=
  joinedBlog.setRow "Post" (Json.setAt readers.toJson (Catalog.fieldPath "readers") blog.toStorage.toJson)

theorem recordedBlog_holds : recordedBlog.Holds grownBlog where
  nodup := by decide
  catalog := rfl
  row := (Database.setRow_rows ..).trans ((if_pos rfl).trans (congrArg some (Schema.setAt_field ..)))

theorem addReaders_leads : ((create false false none).addField "Post" "readers" readers).Leads Step ⟨newBlog, none⟩
    (.ok ()) ⟨recordedBlog, none⟩ := by
  have hentry : joinedBlog.Answers (.fieldEntry "Post" "readers") [⟨[⟨"?column?", .jsonb⟩], [none]⟩] :=
    ⟨_, none, rfl, rfl, .none⟩
  have hadd : (do Catalog.addStorage "Post" "readers" readers.type; Catalog.addEntry "Post" "readers" readers :
      Operation Unit).Leads Step (Server.opened newBlog newBlog) (.ok ()) (Server.opened newBlog recordedBlog) := by
    refine .bind (t := Server.opened newBlog joinedBlog) (b := ()) (Server.define_leads rfl) ?_
    refine .bind (Server.query_leads [.text, .text] ⟨_, 1⟩ rfl (Database.execute_of_catalog rfl) hentry) ?_
    refine .bind (b := none) (.ofResult rfl) (.bind (b := ⟨[], 1⟩) ?_ (.pure _ _))
    exact Server.query_leads [.text, .textArray, .jsonb] _ rfl (Database.execute_of_catalog rfl) trivial
  exact .bind (Server.connect_leads rfl) (.bind (Server.transaction_leads hadd) (announce_leads rfl))

/-- A class with two relations, one of which has been added, is deleted with its three tables. -/
theorem deleteClass_drops_created_blog : ∃ s made es t, Made blog s made ∧
    createdTables made = ["Post", "_Join:authors:Post", "_Join:readers:Post"] ∧
    ((create false false none).deleteClass "Post").run.Converses es (.ok true) ∧ Service.Serves Step s es t ∧
      Removed "Post" (createdTables made) es s t := by
  have hcreated : (createClass (.create false false none) blog).run.Converses _ (.ok blog.toStorage.toPublic) :=
    Program.converses_run (steadyReply (fun _ => none) ⟨[], 1⟩) _ ()
  obtain ⟨added, hadded, hserved⟩ := addReaders_leads
  have hmade : Made blog ⟨recordedBlog, none⟩ _ :=
    .added (.created (s := ⟨newBlog, none⟩) hcreated ⟨rfl, rfl, rfl⟩) hadded hserved
  obtain ⟨t, es, hes, hserves⟩ := deleteClass_leads (.create false false none) rfl rfl recordedBlog_holds
    (Wire.Row.shows_of_parse "schema" parse?_grownBlog grownBlog_kept) (by decide)
  refine ⟨_, _, es, t, hmade, ?_, hes, hserves, (deleteClass_drops_created (by decide) hmade hes hserves).1 _ rfl⟩
  rw [createdTables_append, createClass_creates hcreated, addRelation_creates rfl hadded]
  rfl

end Store

end Docstore
