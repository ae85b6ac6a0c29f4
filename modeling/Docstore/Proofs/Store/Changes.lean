import Docstore.Proofs.Store.Catalog
import Docstore.Store.Classes
import Docstore.Store.Columns

/-!
# Changes of schemas

A change of schemas is one transaction, and a change that succeeds has committed it. Whether the transaction was
still running by then depends on the indexes alone: adding a column may fail and is undone, but an index that
exists already is passed over, and the failure has aborted the transaction (`change_stands_iff`).
-/

namespace Docstore

open Docstore.Engine

namespace Engine

/-- The discipline of transactions without savepoints, in which indexes may fail to be created. -/
def Discipline.unguarded (indexes : Bool) : Discipline :=
  .mending (fun r => r.connection = .pooled ∧ r.effect = .none ∧ (r.createsIndex = true → indexes = true))
    fun r => r.createsIndex = true

/-- The discipline of transactions that return to a savepoint after each failure. -/
def Discipline.guarded : Discipline :=
  .mending (fun r => r.IsInside .pooled ∧ r.createsIndex = false) fun _ => False

theorem Discipline.unguarded_isLenient {indexes : Bool} : (unguarded indexes).IsLenient :=
  fun _ hpooled heffect hcreates => ⟨hpooled, heffect, fun h => by rw [hcreates] at h; cases h⟩

theorem Discipline.guarded_isLenient : guarded.IsLenient :=
  fun _ hpooled heffect hcreates => ⟨⟨hpooled, .inl heffect⟩, hcreates⟩

end Engine

/-! ## What happens in a transaction -/

namespace Catalog

variable {d : Discipline} {className : String}

theorem addColumn_follows {field : String} {type : FieldType} {column : ColumnType} :
    (addColumn className field type column).Follows .guarded := by
  refine (Operation.Follows.attempt ?_ ?_ ?_ ?_).bind fun failure => ?_
  · exact ⟨⟨rfl, .inl rfl⟩, rfl⟩
  · exact ⟨⟨rfl, .inl rfl⟩, rfl⟩
  · exact ⟨⟨rfl, .inl rfl⟩, rfl⟩
  · exact ⟨⟨rfl, .inr rfl⟩, rfl⟩
  · refine .ite ?_ (.pure _)
    exact (define_follows Discipline.guarded_isLenient rfl).bind fun _ =>
      (createTables_follows Discipline.guarded_isLenient).bind fun _ =>
        addRow_follows (query_follows Discipline.guarded_isLenient)

theorem addStorage_follows {field : String} {type : FieldType} :
    (addStorage className field type).Follows .guarded := by
  rw [addStorage]
  cases type.column? with
  | some column => exact addColumn_follows
  | none => exact define_follows Discipline.guarded_isLenient rfl

theorem addEntry_follows (hquery : ∀ q, (query q).Follows d) {field : String} {declared : Field} :
    (addEntry className field declared).Follows d :=
  (hquery _).bind fun answer => by
    cases answer.rows with
    | nil => exact addRow_follows hquery
    | cons r _ =>
        refine (Operation.Follows.ofResult _).bind fun entry => ?_
        cases entry with
        | some entry => exact .ofResult _
        | none => exact setEntry_follows hquery

end Catalog

namespace Index

variable {className : String}

/-- An index may fail to be created without the operation failing. -/
theorem create_follows {name : String} {columns : List Sql.IndexColumn} {unique : Bool} :
    (create name className columns unique).Follows (.unguarded true) := by
  refine .mapError _ (.recover _ _ fun es r hes => ?_)
  obtain ⟨reply, rfl, -⟩ := Operation.converses_ask.mp hes
  refine ⟨fun e he => List.mem_singleton.mp he ▸ ⟨rfl, rfl, fun _ => rfl⟩, fun _ => ?_⟩
  show Mended (fun r => r.createsIndex = true) _
  exact .excuse rfl

theorem createAll_follows {indexes : Fields Document} : (createAll className indexes).Follows (.unguarded true) :=
  .forM fun _ => create_follows

theorem dropAll_follows {d : Discipline} (hd : d.IsLenient) {names : List String} : (dropAll names).Follows d :=
  .forM fun _ => Catalog.define_follows hd rfl

end Index

namespace Store

variable {d : Discipline}

theorem dropTables_follows (hd : d.IsLenient) {names : List String} : (dropTables names).Follows d :=
  .forM fun _ => Catalog.define_follows hd rfl

/-! ## Operations with a transaction -/

section Altering

variable {s : Store} {className : Option String}

/-- An operation that announces a change and succeeds with an answer. -/
def Announces {α : Type} (s : Store) (className : Option String) (op : Operation α) (answer : α) : Prop :=
  ∀ es r, op.run.Converses es r ↔ r = .ok answer ∧ s.Announced className es

theorem announce_announces : s.Announces className (s.announce className) () := fun _ _ => converses_announce

theorem Announces.pure {α : Type} (answer : α) :
    s.Announces className (do s.announce className; pure answer) answer := by
  intro es r
  constructor
  · intro h
    rcases Operation.converses_bind.mp h with ⟨u, xs, ys, rfl, hannounce, hpure⟩ | ⟨f, hannounce, -⟩
    · obtain ⟨rfl, rfl⟩ := Operation.converses_pure.mp hpure
      rw [List.append_nil]
      exact ⟨rfl, (converses_announce.mp hannounce).2⟩
    · cases (converses_announce.mp hannounce).1
  · rintro ⟨rfl, hes⟩
    rw [← List.append_nil es]
    exact Operation.converses_go (converses_announce.mpr ⟨rfl, hes⟩) (Operation.converses_pure.mpr ⟨rfl, rfl⟩)

/-- An operation that reads what it needs, carries out a transaction and announces what that has changed. -/
inductive Alters (s : Store) (className : Option String) (d : Discipline) : {α : Type} → Operation α → Prop
  | transaction {α β : Type} {body : Operation β} {close : β → Operation α} {answer : β → α} (hbody : body.Follows d)
      (hclose : ∀ b, s.Announces className (close b) (answer b)) :
      Alters s className d (Operation.transaction body >>= close)
  | following {α β : Type} {op : Operation β} {f : β → Operation α} (hop : op.Follows .reading)
      (hf : ∀ b, Alters s className d (f b)) : Alters s className d (op >>= f)

theorem Alters.transacts {α : Type} {op : Operation α} (h : s.Alters className d op) : op.Transacts d := by
  induction h with
  | transaction hbody hclose =>
      refine (Operation.Transacts.transaction hbody).followed fun b es r hes => ?_
      exact ⟨((hclose b es r).mp hes).2.effect, fun _ => trivial⟩
  | following hop _ ih => exact .following hop.outside_of_reading ih

/-- A transaction on a connection from the pool that is announced when it is done. -/
theorem announced_alters {body : Operation Unit} (h : body.Follows d) : s.Alters className d (do
    s.connect .pooled
    Operation.transaction body
    s.announce className) :=
  .following connect_reads fun _ => .transaction h fun _ => announce_announces

theorem createClass_alters (schema : Schema) :
    s.Alters schema.className (.unguarded true) (s.createClass schema) := by
  have hd : (Discipline.unguarded true).IsLenient := Discipline.unguarded_isLenient
  refine .following connect_reads fun _ => .transaction ?_ fun _ => .pure _
  exact (Catalog.define_follows hd rfl).bind fun _ => (Catalog.createTables_follows hd).bind fun _ =>
    (Operation.Follows.mapError _ (Catalog.addRow_follows (Catalog.query_follows hd))).bind fun _ =>
      Index.createAll_follows

theorem addField_alters (className field : String) (declared : Field) :
    s.Alters className .guarded (s.addField className field declared) :=
  announced_alters (Catalog.addStorage_follows.bind fun _ =>
    Catalog.addEntry_follows (Catalog.query_follows Discipline.guarded_isLenient))

/-- What is known of a class is read before its transaction, so that a catalog that is missing does not abort it. -/
theorem deleteClass_alters (className : String) :
    s.Alters className (.unguarded false) (s.deleteClass className) := by
  have hd : (Discipline.unguarded false).IsLenient := Discipline.unguarded_isLenient
  refine .following connect_reads fun _ => .following ?_ fun known => .transaction ?_ fun _ => .pure _
  · exact .recover _ _ ((Catalog.schema?_follows Discipline.reading_permitsReading).map _).always
  · refine (dropTables_follows hd).bind fun _ => .ite ?_ (.pure _)
    exact (Catalog.query_follows hd _).bind fun _ => .pure _

theorem existingTables_follows (hd : d.PermitsReading) {names : List String} : (existingTables names).Follows d :=
  (Catalog.query_reads hd rfl).bind fun _ => (Operation.Follows.ofResult _).bind fun _ => .pure _

theorem deleteClasses_alters (fast : Bool) : s.Alters none (.unguarded false) (s.deleteClasses fast) := by
  have hd : (Discipline.unguarded false).IsLenient := Discipline.unguarded_isLenient
  refine .following connect_reads fun _ => .following ?_ fun schemas => ?_
  · exact .recover _ _ (Catalog.schemas_follows Discipline.reading_permitsReading).always
  · cases fast with
    | true =>
        refine .following (existingTables_follows Discipline.reading_permitsReading) fun existing =>
          .transaction ?_ fun _ => announce_announces
        exact .forM fun _ => Catalog.define_follows hd rfl
    | false => exact .transaction (dropTables_follows hd) fun _ => announce_announces

theorem deleteFields_alters (className : String) (fields : List String) :
    s.Alters className (.unguarded false) (s.deleteFields className fields) := by
  have hd : (Discipline.unguarded false).IsLenient := Discipline.unguarded_isLenient
  refine announced_alters ((Catalog.schema?_follows hd.permitsReading).bind fun found => ?_)
  cases found with
  | none => exact .throw _
  | some schema => exact (Catalog.query_follows hd _).bind fun _ => .ite (Catalog.define_follows hd rfl) (.pure _)

theorem createIndexes_alters (className : String) (indexes : Fields Document) :
    s.Alters className (.unguarded true) (s.createIndexes className indexes) :=
  announced_alters Index.createAll_follows

theorem dropIndexes_alters (className : String) (names : List String) :
    s.Alters className (.unguarded false) (s.dropIndexes className names) :=
  announced_alters (Index.dropAll_follows Discipline.unguarded_isLenient)

theorem setIndexes_alters (className : String) (submitted : Document) (existing : Fields Document)
    (fields : Fields Field) : s.Alters className (.unguarded true) (s.setIndexes className submitted existing fields) := by
  have hd : (Discipline.unguarded true).IsLenient := Discipline.unguarded_isLenient
  refine .following (.ofResult _) fun _ => announced_alters ?_
  exact Index.createAll_follows.bind fun _ => (Index.dropAll_follows hd).bind fun _ =>
    Catalog.setEntry_follows (Catalog.query_follows hd)

end Altering

end Store

/-! ## Changes -/

/-- The changes of schemas that are carried out in a transaction. -/
inductive Change
  | createClass (schema : Schema)
  | addField (className field : String) (declared : Field)
  | deleteClass (className : String)
  | deleteClasses (fast : Bool)
  | deleteFields (className : String) (fields : List String)
  | createIndexes (className : String) (indexes : Fields Document)
  | dropIndexes (className : String) (names : List String)
  | setIndexes (className : String) (submitted : Document) (existing : Fields Document) (fields : Fields Field)

namespace Change

abbrev Answer : Change → Type
  | createClass _ => Schema
  | deleteClass _ => Bool
  | _ => Unit

def carryOut (s : Store) : (change : Change) → Operation change.Answer
  | createClass schema => s.createClass schema
  | addField className field declared => s.addField className field declared
  | deleteClass className => s.deleteClass className
  | deleteClasses fast => s.deleteClasses fast
  | deleteFields className fields => s.deleteFields className fields
  | createIndexes className indexes => s.createIndexes className indexes
  | dropIndexes className names => s.dropIndexes className names
  | setIndexes className submitted existing fields => s.setIndexes className submitted existing fields

/-- Whether a change creates indexes. -/
def createsIndexes : Change → Bool
  | createClass _ | createIndexes _ _ | setIndexes _ _ _ _ => true
  | _ => false

/-- The discipline of the transaction of a change. -/
def discipline : Change → Discipline
  | addField _ _ _ => .guarded
  | change => .unguarded change.createsIndexes

/-- The class that a change is about, if it is about a single one. -/
def className? : Change → Option String
  | createClass schema => schema.className
  | deleteClasses _ => none
  | addField className _ _ | deleteClass className | deleteFields className _ | createIndexes className _
  | dropIndexes className _ | setIndexes className _ _ _ => className

theorem carryOut_alters (s : Store) (change : Change) :
    s.Alters change.className? change.discipline (change.carryOut s) := by
  cases change with
  | createClass schema => exact Store.createClass_alters schema
  | addField className field declared => exact Store.addField_alters className field declared
  | deleteClass className => exact Store.deleteClass_alters className
  | deleteClasses fast => exact Store.deleteClasses_alters fast
  | deleteFields className fields => exact Store.deleteFields_alters className fields
  | createIndexes className indexes => exact Store.createIndexes_alters className indexes
  | dropIndexes className names => exact Store.dropIndexes_alters className names
  | setIndexes className submitted existing fields => exact Store.setIndexes_alters className submitted existing fields

theorem carryOut_transacts (s : Store) (change : Change) : (change.carryOut s).Transacts change.discipline :=
  (change.carryOut_alters s).transacts

end Change

/-! ## Where the transaction of a change stands -/

/-- Every index that was to be created was. -/
def IndexesCreated (es : List Exchange) : Prop := ∀ e ∈ es, e.request.createsIndex = true → e.failed = false

/-- A transaction that runs on, and whose failures are undone, exactly where its indexes were created. -/
structure StandsByIndexes (inside : List Exchange) : Prop where
  isInside : ∀ e ∈ inside, e.request.IsInside .pooled
  standing : Standing.run .pooled .running inside = .running ↔ IndexesCreated inside
  mended : Mended (fun _ => False) inside ↔ IndexesCreated inside

section Standing

variable {inside : List Exchange}

theorem stands_of_guarded (hallowed : ∀ e ∈ inside, Discipline.guarded.allows e.request)
    (horderly : Discipline.guarded.orderly inside) : StandsByIndexes inside := by
  have hinside : ∀ e ∈ inside, e.request.IsInside .pooled := fun e he => (hallowed e he).1
  have hcreated : IndexesCreated inside := fun e he hcreates => by
    rw [(hallowed e he).2] at hcreates
    cases hcreates
  exact ⟨hinside, iff_of_true (horderly.run_eq _ hinside) hcreated, iff_of_true horderly hcreated⟩

/-- Nothing is undone in a transaction without savepoints, so what fails is an index that is passed over. -/
theorem stands_of_unguarded {indexes : Bool} (hallowed : ∀ e ∈ inside, (Discipline.unguarded indexes).allows e.request)
    (horderly : (Discipline.unguarded indexes).orderly inside) : StandsByIndexes inside := by
  have hplain : ∀ e ∈ inside, e.request.connection = .pooled ∧ e.request.effect = .none :=
    fun e he => ⟨(hallowed e he).1, (hallowed e he).2.1⟩
  have hreturns : ∀ e ∈ inside, e.request.effect ≠ .returns := fun e he => by
    rw [(hplain e he).2]
    decide
  have hmended : Mended (fun r => r.createsIndex = true) inside := horderly
  have hfailed : (∀ e ∈ inside, e.failed = false) ↔ IndexesCreated inside := by
    refine ⟨fun h e he _ => h e he, fun h e he => ?_⟩
    cases hfailed : e.failed with
    | false => rfl
    | true => rw [← hfailed, h e he (hmended.excused_of_failed hreturns he hfailed)]
  refine ⟨fun e he => ⟨(hplain e he).1, .inl (hplain e he).2⟩, ?_, ?_⟩
  · rw [Standing.run_running_iff hplain, hfailed]
  · rw [← hfailed]
    constructor
    · intro h e he
      cases hfailed : e.failed with
      | false => rfl
      | true => exact (h.excused_of_failed hreturns he hfailed).elim
    · intro h before e after he hfailed
      rw [h e (he ▸ List.mem_append_right _ (.head _))] at hfailed
      cases hfailed

theorem Change.stands {change : Change} (hallowed : ∀ e ∈ inside, change.discipline.allows e.request)
    (horderly : change.discipline.orderly inside) :
    StandsByIndexes inside ∧ ∀ e ∈ inside, e.request.createsIndex = true → change.createsIndexes = true := by
  cases change with
  | addField className field declared =>
      refine ⟨stands_of_guarded hallowed horderly, fun e he hcreates => ?_⟩
      rw [(hallowed e he).2] at hcreates
      cases hcreates
  | _ => exact ⟨stands_of_unguarded hallowed horderly, fun e he => (hallowed e he).2.2⟩

/--
A change that succeeds has committed one transaction. That was still running exactly where every index that the
change was to create has been created, and then each of its failures had been undone before anything else was asked.
-/
theorem change_stands_iff {s : Store} {change : Change} {es : List Exchange} {a : change.Answer}
    (h : (change.carryOut s).run.Converses es (.ok a)) :
    ∃ before inside after, es = before ++ begun :: inside ++ committed :: after ∧
      (∀ e ∈ before ++ after, e.request.effect = .none) ∧
      (∀ e ∈ inside, e.request.IsInside .pooled) ∧
      (∀ e ∈ inside, e.request.createsIndex = true → change.createsIndexes = true) ∧
      (Standing.run .pooled .idle (before ++ begun :: inside) = .running ↔ IndexesCreated inside) ∧
      (Mended (fun _ => False) inside ↔ IndexesCreated inside) := by
  obtain ⟨before, inside, after, hcommits⟩ := change.carryOut_transacts s es a h
  obtain ⟨hstands, hcreates⟩ := Change.stands hcommits.allowed hcommits.orderly
  have hbegun : Standing.run .pooled .idle (before ++ begun :: inside) = Standing.run .pooled .running inside := by
    have hidle : Standing.run .pooled .idle before = .idle := Standing.run_idle fun e he => by
      rw [hcommits.before e he]
      decide
    rw [Standing.run_append, hidle, begun, Standing.run_sent]
    rfl
  refine ⟨before, inside, after, hcommits.eq, ?_, hstands.isInside, hcreates, ?_, hstands.mended⟩
  · exact List.forall_mem_append.mpr ⟨hcommits.before, hcommits.after⟩
  · rw [hbegun, hstands.standing]

/-- What a server says where a column is added that is there. -/
def columnTaken : EngineFault := .server ⟨"42701", "column \"title\" of relation \"Post\" already exists", none⟩

/-- A server on which no column can be added, and where no field has an entry in the catalog. -/
def replyColumnTaken : (r : Request) → Unit → r.Reply × Unit :=
  steadyReply (fun | .send _ (.define (.addColumn _ _)) => some columnTaken | _ => none)
    ⟨[⟨[⟨"?column?", .jsonb⟩], [none]⟩], 1⟩

/-- Adding a field whose column is there fails behind a savepoint, and is committed all the same. -/
theorem change_stands_iff_addField :
    ∃ es before inside after, es = before ++ begun :: inside ++ committed :: after ∧
      (Change.carryOut (.create false false none) (.addField "Post" "title" (.ofType .string))).run.Converses es
        (.ok ()) ∧
      es.any Exchange.failed = true ∧ Standing.run .pooled .idle (before ++ begun :: inside) = .running := by
  let program := (Change.carryOut (.create false false none) (.addField "Post" "title" (.ofType .string))).run
  have hconverses : program.Converses (program.exchanges replyColumnTaken ()) (.ok ()) :=
    program.converses_run replyColumnTaken ()
  obtain ⟨before, inside, after, heq, -, -, hcreates, hstands, -⟩ := change_stands_iff hconverses
  exact ⟨_, before, inside, after, heq, hconverses, by decide, hstands.mpr fun e he h => nomatch hcreates e he h⟩

/-- What a server says where an index is created at the same time by someone else. -/
def indexTaken : EngineFault :=
  .server ⟨"23505", "duplicate key value violates unique constraint \"pg_class_relname_nsp_index\"",
    some "pg_class_relname_nsp_index"⟩

/-- An index that is being created by someone else aborts the transaction, and the change succeeds all the same. -/
theorem createIndexes_aborted :
    let refused : Exchange :=
      ⟨.send .pooled (.define (.createIndex "title_1" "Post" (Index.keyColumns [("title", .int 1)]) false)),
        .error indexTaken⟩
    let before : List Exchange := [.ofSuccess (.connect .pooled) ()]
    let change : Change := .createIndexes "Post" [("title_1", [("title", .int 1)])]
    (change.carryOut (.create false false none)).run.Converses (before ++ begun :: [refused] ++ [committed]) (.ok ()) ∧
      Standing.run .pooled .idle (before ++ begun :: [refused]) = .aborted ∧ ¬ Mended (fun _ => False) [refused] := by
  refine ⟨.ask _ (.ask _ (.ask _ (.ask _ (.done _)))), by decide, fun h => ?_⟩
  obtain ⟨back, rest, hnext, -⟩ := h [] _ [] rfl rfl not_false
  cases hnext

end Standing

end Docstore
