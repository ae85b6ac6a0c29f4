import Docstore.Proofs.Engine.Attempts
import Docstore.Proofs.Schema.Codec
import Docstore.Proofs.Schema.Forms
import Docstore.Proofs.Store.Alignment
import Docstore.Proofs.Store.Changes
import Docstore.Proofs.Store.Documents

/-!
# Entries of fields

What becomes of the catalog where a field is added to a class: nothing is written if the field is declared with the same
type already, and otherwise its entry or the row of the class is, or there is a conflict (`addField_reconciles`).
Whether the entry that is written says everything that was declared depends on which of the two it is
(`addField_records_iff`).
-/

namespace Docstore

open Docstore.Engine
open Docstore.Sql (CatalogStatement Database Definition)

namespace Engine

/-! ## What is written to the catalog -/

/-- The statement about the catalog that an exchange carries out, if it writes. -/
def Exchange.catalogWrite? : Exchange → Option CatalogStatement
  | ⟨.execute _ (.catalog q) _, _⟩ => if q.writes then some q else none
  | _ => none

def catalogWrites (es : List Exchange) : List CatalogStatement := es.filterMap Exchange.catalogWrite?

/-- A server says that a column is there that was to be added. -/
def Exchange.ReportsColumn (className field : String) (e : Exchange) : Prop :=
  ∃ column f, e = ⟨.send .pooled (.define (Definition.newColumn className field column)), .error f⟩ ∧
    (Error.ofCause (.driver f)).hasState .duplicateColumn = true

section Writes

variable {es xs ys : List Exchange} {c : Connection} {q : CatalogStatement} {answer : Answer}

@[simp] theorem catalogWrites_append : catalogWrites (xs ++ ys) = catalogWrites xs ++ catalogWrites ys :=
  List.filterMap_append

theorem Answered.catalogWrites_eq (h : Answered c (.catalog q) answer es) :
    catalogWrites es = if q.writes then [q] else [] := by
  obtain ⟨h⟩ := h
  have hwrite : ∀ arguments, Exchange.catalogWrite? (.ofSuccess (.execute c (.catalog q) arguments) answer) =
      if q.writes then some q else none := fun _ => rfl
  rw [catalogWrites, List.filterMap_cons_none rfl, List.filterMap_cons, hwrite]
  cases q.writes <;> rfl

end Writes

end Engine

theorem Error.hasState_unique {e : Error} {s t : SqlState} (hs : e.hasState s = true) (ht : e.hasState t = true) :
    s = t := by
  cases he : e.serverError? with
  | none => simp [hasState, he] at hs
  | some server =>
      simp [hasState, he] at hs ht
      have hcode : s.code = t.code := hs.symm.trans ht
      revert hcode
      cases s <;> cases t <;> decide

/-! ## What comes of a field that is added -/

/--
What adding a field to a class writes to the catalog, and what comes of it: a row for a class that has none, an entry in
a row that says nothing about the field; nothing where the field is declared, but that is a conflict unless it is
declared with its type.
-/
inductive Reconciled (db : Database) (className field : String) (declared : Field) :
    List CatalogStatement → Result Unit → Prop
  | uncatalogued (h : db.rows className = none) : Reconciled db className field declared
      [.addRow className (Catalog.schemaOfField className field declared.type).toJson true] (.ok ())
  | undeclared {doc : Json} (h : db.rows className = some doc) (hentry : Database.entryOf? doc field = none) :
      Reconciled db className field declared [.setEntry className ["fields", field] declared.toJson] (.ok ())
  | declared {doc entry kept : Json} {f : Field} (h : db.rows className = some doc)
      (hentry : Database.entryOf? doc field = some entry) (hkept : entry.Kept kept) (hf : Field.ofJson? kept = some f)
      (htype : f.type = declared.type) : Reconciled db className field declared [] (.ok ())
  | conflicting {doc entry kept : Json} {f : Field} (h : db.rows className = some doc)
      (hentry : Database.entryOf? doc field = some entry) (hkept : entry.Kept kept) (hf : Field.ofJson? kept = some f)
      (htype : f.type ≠ declared.type) :
      Reconciled db className field declared [] (.error (.ofCause (.schemaConflict className field)))
  | unreadable {doc entry kept : Json} (h : db.rows className = some doc)
      (hentry : Database.entryOf? doc field = some entry) (hkept : entry.Kept kept) (hf : Field.ofJson? kept = none) :
      Reconciled db className field declared [] (.error (.ofCause .unreadable))

/-- What may fail without a field being refused: a column that is there is added, or nobody hears of the change. -/
def Engine.Exchange.Excused (className field : String) (e : Exchange) : Prop :=
  e.request.connection = .listener ∨ e.ReportsColumn className field

namespace Catalog

variable {db : Database} {className field : String} {declared : Field} {type : FieldType} {es : List Exchange}
  {r : Result Unit}

/-! ### Columns -/

theorem query_prevails (q : CatalogStatement) : (query q).Prevails (Exchange.Excused className field) := by
  refine .query (fun reply => ?_) fun arguments reply => ?_
  all_goals
    rintro (h | ⟨_, _, h, _⟩)
    · cases h
    · cases h

theorem define_prevails {d : Definition} (hd : ∀ column, d ≠ Definition.newColumn className field column) :
    (define d).Prevails (Exchange.Excused className field) := by
  refine .send fun reply => ?_
  rintro (h | ⟨column, _, h, _⟩)
  · cases h
  · cases h
    exact hd column rfl

theorem addRow_prevails {stored : Schema} {ignoreConflict : Bool} :
    (addRow stored ignoreConflict).Prevails (Exchange.Excused className field) :=
  (query_prevails _).bind fun _ => .pure ()

theorem setEntry_prevails {path : List String} {value : Json} :
    (setEntry className path value).Prevails (Exchange.Excused className field) :=
  (query_prevails _).bind fun _ => .pure ()

theorem createTables_prevails {stored : Schema} :
    (createTables stored).Prevails (Exchange.Excused className field) := by
  refine Operation.Prevails.bind (define_prevails fun column h => ?_) fun _ =>
    .forM fun name => define_prevails fun column h => ?_
  · cases h
  · cases h

theorem addColumn_prevails {column : ColumnType} :
    (addColumn className field type column).Prevails (Exchange.Excused className field) := by
  refine Operation.Prevails.bind (.attempt (fun c reply => ?_) fun f => ?_) fun failure => ?_
  · rintro (h | ⟨_, _, h, _⟩)
    · cases h
    · cases h
  · rintro (h | ⟨column', f', h, hstate⟩)
    · cases h
    · cases h
      exact Bool.or_eq_true_iff.mpr (.inr hstate)
  · dsimp only
    split
    · exact (define_prevails nofun : ensure.Prevails _).bind fun _ => createTables_prevails.bind fun _ => addRow_prevails
    · exact .pure ()

/-- A column is added, or is there already: nothing is written to the catalog. -/
theorem addColumn_writes_nothing {column : ColumnType} (h : (addColumn className field type column).run.Converses es r)
    (hgoes : ∀ e ∈ es, e.GoesOn ∨ e.Excused className field) : r = .ok () ∧ catalogWrites es = [] := by
  obtain ⟨⟨⟩, rfl⟩ := addColumn_prevails es r h hgoes
  refine ⟨rfl, ?_⟩
  obtain ⟨failure, xs, ys, rfl, hattempt, hrest⟩ := Operation.converses_bind_ok.mp h
  rcases Operation.converses_attempt_ok hattempt with ⟨rfl, rfl⟩ | ⟨f, -, rfl, rfl⟩
  · obtain ⟨rfl, -⟩ := Operation.converses_pure.mp hrest
    rfl
  · -- The failure was excused, so it was not the table that was missing.
    have hthere : (Error.ofCause (.driver f)).hasState .undefinedTable = false := by
      rcases hgoes _ (.tail _ (.head _)) with hgo | hlistener | ⟨_, _, hreport, hstate⟩
      · cases hgo
      · cases hlistener
      · cases hreport
        refine Bool.eq_false_iff.mpr fun hmissing => ?_
        cases Error.hasState_unique hstate hmissing
    simp only [Option.any_some, hthere] at hrest
    obtain ⟨rfl, -⟩ := Operation.converses_pure.mp hrest
    rfl

/-! ### Entries -/

theorem catalogWrites_query {q : CatalogStatement}
    (h : (do let _ ← query q : Operation Unit).run.Converses es (.ok ())) :
    catalogWrites es = if q.writes then [q] else [] := by
  obtain ⟨answer, xs, ys, rfl, hquery, hpure⟩ := Operation.converses_bind_ok.mp h
  obtain ⟨rfl, -⟩ := Operation.converses_pure.mp hpure
  rw [List.append_nil]
  exact (Operation.converses_query_ok.mp hquery).catalogWrites_eq

/-- What is read of an entry decides what comes of the field. -/
theorem reconciled_of_kept {doc entry kept : Json} (hdoc : db.rows className = some doc)
    (hentry : Database.entryOf? doc field = some entry) (hkept : entry.Kept kept) :
    Reconciled db className field declared [] (checkEntry className field declared kept) := by
  rw [checkEntry]
  cases hf : Field.ofJson? kept with
  | none => exact .unreadable hdoc hentry hkept hf
  | some f =>
      dsimp only
      split
      next htype => exact .declared hdoc hentry hkept hf htype
      next htype => exact .conflicting hdoc hentry hkept hf htype

theorem addEntry_reconciled (h : (addEntry className field declared).run.Converses es r)
    (hgoes : ∀ e ∈ es, e.GoesOn ∨ e.Excused className field)
    (hanswers : ∀ arguments answer,
      .ofSuccess (.execute .pooled (.catalog (.fieldEntry className field)) arguments) answer ∈ es →
        db.Answers (.fieldEntry className field) answer.rows) :
    Reconciled db className field declared (catalogWrites es) r := by
  rcases Operation.converses_bind.mp h with ⟨answer, xs, ys, rfl, hquery, hrest⟩ | ⟨f, hquery, -⟩
  · have hread := Operation.converses_query_ok.mp hquery
    have hrows : db.Answers (.fieldEntry className field) answer.rows := by
      obtain ⟨h⟩ := hread
      exact hanswers _ _ (List.mem_append_left _ (.tail _ (.head _)))
    have hnone : catalogWrites xs = [] := hread.catalogWrites_eq
    have hlater : ∀ e ∈ ys, e.GoesOn ∨ e.Excused className field := (List.forall_mem_append.mp hgoes).2
    rw [catalogWrites_append, hnone, List.nil_append]
    rw [Database.Answers] at hrows
    cases hdoc : db.rows className with
    | none =>
        rw [hdoc] at hrows
        rw [hrows] at hrest
        obtain ⟨⟨⟩, rfl⟩ := addRow_prevails _ _ hrest hlater
        rw [catalogWrites_query (q := .addRow _ _ _) hrest]
        exact .uncatalogued hdoc
    | some doc =>
        rw [hdoc] at hrows
        obtain ⟨row, entry, hrows, hentry, hkept⟩ := hrows
        simp only [hrows, hentry] at hrest
        cases entry with
        | none =>
            obtain ⟨⟨⟩, rfl⟩ := setEntry_prevails _ _ hrest hlater
            rw [catalogWrites_query (q := .setEntry _ _ _) hrest]
            refine .undeclared hdoc ?_
            cases hentry : Database.entryOf? doc field with
            | none => rfl
            | some entry =>
                rw [hentry] at hkept
                cases hkept
        | some kept =>
            obtain ⟨rfl, rfl⟩ := Operation.converses_ofResult.mp hrest
            cases hentry : Database.entryOf? doc field with
            | none =>
                rw [hentry] at hkept
                cases hkept
            | some entry =>
                rw [hentry] at hkept
                cases hkept with
                | some hkept => exact reconciled_of_kept hdoc hentry hkept
  · obtain ⟨_, hr⟩ := query_prevails _ _ _ hquery hgoes
    cases hr

/-- What is said in the transaction around a field that is added. -/
theorem addition_reconciled {column : ColumnType} (hcolumn : declared.type.column? = some column)
    (h : (do addStorage className field declared.type; addEntry className field declared : Operation Unit).run.Converses
      es r)
    (hgoes : ∀ e ∈ es, e.GoesOn ∨ e.Excused className field)
    (hanswers : ∀ arguments answer,
      .ofSuccess (.execute .pooled (.catalog (.fieldEntry className field)) arguments) answer ∈ es →
        db.Answers (.fieldEntry className field) answer.rows) :
    (∀ e ∈ es, e.request.IsInside .pooled) ∧ Reconciled db className field declared (catalogWrites es) r := by
  refine ⟨fun e he => ?_, ?_⟩
  · have hfollows : (do addStorage className field declared.type; addEntry className field declared :
        Operation Unit).Follows .guarded :=
      addStorage_follows.bind fun _ => addEntry_follows (query_follows Discipline.guarded_isLenient)
    exact ((hfollows es r h).1 e he).1
  · rw [addStorage, hcolumn] at h
    rcases Operation.converses_bind.mp h with ⟨u, xs, ys, rfl, hplace, hentry⟩ | ⟨f, hplace, -⟩
    · obtain ⟨-, hnothing⟩ := addColumn_writes_nothing hplace (List.forall_mem_append.mp hgoes).1
      rw [catalogWrites_append, hnothing, List.nil_append]
      exact addEntry_reconciled hentry (List.forall_mem_append.mp hgoes).2
        fun arguments answer he => hanswers arguments answer (List.mem_append_right _ he)
    · cases (addColumn_writes_nothing hplace hgoes).1

end Catalog

namespace Store

variable {s : Store} {db : Database} {className field : String} {declared : Field} {es : List Exchange} {r : Result Unit}

theorem Announced.catalogWrites_eq {className : Option String} (h : s.Announced className es) :
    catalogWrites es = [] := by
  cases h with
  | silent => rfl
  | published _ hes => cases hes <;> rfl

/-- A transaction on a connection from the pool, which is committed and then announced, or rolled back. -/
inductive Closes (s : Store) (className : String) (inside : List Exchange) : List Exchange → Result Unit → Prop
  | committed {after : List Exchange} (hafter : s.Announced className after) :
      Closes s className inside (.ofSuccess (.connect .pooled) () :: begun :: inside ++ Engine.committed :: after) (.ok ())
  | rolledBack {close : Exchange} (hclose : close.request = .send .pooled (.scope .rollback)) (f : Fault) :
      Closes s className inside (.ofSuccess (.connect .pooled) () :: begun :: inside ++ [close]) (.error f)

namespace Closes

variable {inside : List Exchange} (h : s.Closes className inside es r)

include h

theorem subset : inside ⊆ es := by
  intro e he
  cases h <;> simp [he]

/-- Whatever is written to the catalog is written inside the transaction. -/
theorem catalogWrites_eq : catalogWrites es = catalogWrites inside := by
  cases h with
  | committed hafter =>
      have hnone : catalogWrites [Engine.committed] = [] := rfl
      rw [List.append_cons, catalogWrites_append, catalogWrites_append, hnone, hafter.catalogWrites_eq, List.append_nil,
        List.append_nil]
      rfl
  | @rolledBack close hclose f =>
      obtain ⟨request, reply⟩ := close
      cases hclose
      have hnone : catalogWrites [⟨.send .pooled (.scope .rollback), reply⟩] = [] := rfl
      rw [catalogWrites_append, hnone, List.append_nil]
      rfl

end Closes

/-! ### Nothing else fails -/

theorem not_excused_scope {c : Sql.ScopeControl} {reply : (Request.send .pooled (.scope c)).Reply} :
    ¬Exchange.Excused className field ⟨.send .pooled (.scope c), reply⟩ := by
  rintro (h | ⟨_, _, h, -⟩)
  · cases h
  · cases h

theorem not_excused_connect {reply : (Request.connect .pooled).Reply} :
    ¬Exchange.Excused className field ⟨.connect .pooled, reply⟩ := by
  rintro (h | ⟨_, _, h, -⟩)
  · cases h
  · cases h

theorem connect_prevails {excused : Exchange → Prop} (hopen : s.closed = false)
    (h : ∀ reply, ¬excused ⟨.connect .pooled, reply⟩) : (s.connect .pooled).Prevails excused := by
  intro es r hes hgoes
  obtain ⟨f | ⟨⟩, rfl, rfl⟩ := (converses_connect hopen).mp hes
  · cases (hgoes _ (.head _)).resolve_right (h _)
  · exact ⟨(), rfl⟩

/-- A field that is added has been added in one transaction, of which listeners hear. -/
theorem addField_closes_ok {u : Unit} (h : (s.addField className field declared).run.Converses es (.ok u)) :
    ∃ inside, s.Closes className inside es (.ok u) ∧
      (do Catalog.addStorage className field declared.type; Catalog.addEntry className field declared :
        Operation Unit).run.Converses inside (.ok u) := by
  obtain ⟨_, xs, ys, rfl, hconnect, hrest⟩ := Operation.converses_bind_ok.mp h
  obtain ⟨-, rfl⟩ := converses_connect_ok.mp hconnect
  obtain ⟨_, zs, after, rfl, htransaction, hannounce⟩ := Operation.converses_bind_ok.mp hrest
  obtain ⟨inside, rfl, hinside⟩ := Operation.converses_transaction_ok.mp htransaction
  exact ⟨inside, by simpa using Closes.committed (converses_announce.mp hannounce).2, hinside⟩

/-- Nothing but what is said in the transaction keeps a field from being added. -/
theorem addField_closes (hopen : s.closed = false) (h : (s.addField className field declared).run.Converses es r)
    (hgoes : ∀ e ∈ es, e.GoesOn ∨ e.Excused className field) :
    ∃ inside, s.Closes className inside es r ∧
      (do Catalog.addStorage className field declared.type; Catalog.addEntry className field declared :
        Operation Unit).run.Converses inside r := by
  cases r with
  | ok u => exact addField_closes_ok h
  | error f =>
      rcases Operation.converses_bind.mp h with ⟨u, xs, ys, rfl, hconnect, hrest⟩ | ⟨f, hconnect, -⟩
      · obtain ⟨-, rfl⟩ := converses_connect_ok.mp hconnect
        rcases Operation.converses_bind.mp hrest with ⟨u, zs, after, rfl, -, hannounce⟩ | ⟨f', htransaction, hf⟩
        · cases (converses_announce.mp hannounce).1
        · cases hf
          cases Operation.converses_transaction_error htransaction with
          | unstarted f hclose => cases (hgoes _ (.tail _ (.head _))).resolve_right not_excused_scope
          | rolledBack hinside hclose => exact ⟨_, .rolledBack hclose f, hinside⟩
          | uncommitted hinside f =>
              have hcommit := hgoes ⟨.send .pooled (.scope .commit), .error f⟩ (by simp)
              cases hcommit.resolve_right not_excused_scope
      · obtain ⟨_, hr⟩ := connect_prevails hopen (fun _ => not_excused_connect) _ _ hconnect hgoes
        cases hr

/--
What adding a field with a column comes to where the table of the class exists and nothing else fails. It is settled by
what the catalog holds, and the transaction is rolled back, unheard, where that is a conflict.
-/
theorem addField_reconciles (hopen : s.closed = false) (hcolumn : declared.type.isRelation = false)
    (h : (s.addField className field declared).run.Converses es r)
    (hgoes : ∀ e ∈ es, e.GoesOn ∨ e.Excused className field)
    (hanswers : ∀ arguments answer,
      .ofSuccess (.execute .pooled (.catalog (.fieldEntry className field)) arguments) answer ∈ es →
        db.Answers (.fieldEntry className field) answer.rows) :
    Reconciled db className field declared (catalogWrites es) r ∧
      ∃ inside, s.Closes className inside es r ∧ ∀ e ∈ inside, e.request.IsInside .pooled := by
  obtain ⟨column, hcolumn⟩ := Option.ne_none_iff_exists'.mp (FieldType.isRelation_eq_false_iff.mp hcolumn)
  obtain ⟨inside, hcloses, hinside⟩ := addField_closes hopen h hgoes
  obtain ⟨hin, hreconciled⟩ := Catalog.addition_reconciled hcolumn hinside (fun e he => hgoes e (hcloses.subset he))
    fun arguments answer he => hanswers arguments answer (hcloses.subset he)
  exact ⟨hcloses.catalogWrites_eq ▸ hreconciled, inside, hcloses, hin⟩

/-- A class that is declared without fields. -/
def bareRow : Database := Database.empty.setRow "Post" (.object [("fields", .object [])])

/-- The column of a field is there, and the class says nothing about it: its entry is written. -/
theorem addField_reconciles_columnTaken :
    ∃ es, (Store.addField (.create false false none) "Post" "title" (.ofType .string)).run.Converses es (.ok ()) ∧
      es.any Exchange.failed = true ∧
      Reconciled bareRow "Post" "title" (.ofType .string) (catalogWrites es) (.ok ()) ∧
      catalogWrites es = [.setEntry "Post" ["fields", "title"] (Field.ofType .string).toJson] := by
  let program := (Store.addField (.create false false none) "Post" "title" (.ofType .string)).run
  let es := program.exchanges replyColumnTaken ()
  have hconverses : program.Converses es (.ok ()) := program.converses_run replyColumnTaken ()
  have hes : es = es.take 3 ++
      ⟨.send .pooled (.define (Definition.newColumn "Post" "title" .text)), .error columnTaken⟩ :: es.drop 4 := rfl
  have hgoes : ∀ e ∈ es, e.GoesOn ∨ e.Excused "Post" "title" := by
    have hbefore : ∀ e ∈ es.take 3, e.GoesOn := by decide
    have hafter : ∀ e ∈ es.drop 4, e.GoesOn := by decide
    rw [hes]
    refine List.forall_mem_append.mpr ⟨fun e he => .inl (hbefore e he), List.forall_mem_cons.mpr ⟨?_, ?_⟩⟩
    · exact .inr (.inr ⟨_, _, rfl, by decide⟩)
    · exact fun e he => .inl (hafter e he)
  have hanswers : ∀ arguments answer,
      .ofSuccess (.execute .pooled (.catalog (.fieldEntry "Post" "title")) arguments) answer ∈ es →
        bareRow.Answers (.fieldEntry "Post" "title") answer.rows := by
    intro arguments answer he
    cases Program.reply_of_mem_exchanges he
    exact ⟨_, none, rfl, rfl, .none⟩
  obtain ⟨hreconciled, -⟩ := addField_reconciles rfl rfl hconverses hgoes hanswers
  exact ⟨es, hconverses, by decide, hreconciled, rfl⟩

end Store

/-! ## What is recorded of a field -/

/-- What a statement says about a field, where it is carried out. -/
def Sql.CatalogStatement.entry? (field : String) : CatalogStatement → Option Json
  | .addRow _ doc _ => Database.entryOf? doc field
  | .setEntry _ path value => if path = Catalog.fieldPath field then some value else none
  | _ => none

/-- What an exchange records about a field: what it writes where a row has been added or changed. -/
def Engine.Exchange.recorded? (field : String) : Exchange → Option Json
  | ⟨.execute _ (.catalog q) _, .ok answer⟩ => if answer.affected = 0 then none else q.entry? field
  | _ => none

def Engine.recorded (field : String) (es : List Exchange) : List Json := es.filterMap (Exchange.recorded? field)

/-- A row is added to the catalog. -/
def Engine.Exchange.AddsRow (e : Exchange) : Prop :=
  ∃ c className doc ignoreConflict arguments, ∃ answer : Answer,
    e = .ofSuccess (.execute c (.catalog (.addRow className doc ignoreConflict)) arguments) answer ∧ answer.affected ≠ 0

/-- What the row of a class of which nothing but one field is known says about that field. -/
def Catalog.storedField (className field : String) (type : FieldType) : Field :=
  ((Schema.storageFields ⟨className, [], none, []⟩).get? field).getD (.ofType type)

/-- Only a field's entry is written to the catalog, or the row of a class with that field. -/
def Engine.Request.Declares (className field : String) (declared : Field) : Request → Prop
  | .execute _ (.catalog q) _ => q.writes = true →
    q = .addRow className (Catalog.schemaOfField className field declared.type).toJson true ∨
      q = .setEntry className (Catalog.fieldPath field) declared.toJson
  | _ => True

/-- The discipline under which nothing else is written to the catalog. -/
def Engine.Discipline.declaring (className field : String) (declared : Field) : Discipline :=
  .mending (Request.Declares className field declared) fun _ => False

theorem Engine.mem_recorded {field : String} {v : Json} {es : List Exchange} :
    v ∈ recorded field es ↔ ∃ c q arguments, ∃ answer : Answer,
      Exchange.ofSuccess (.execute c (.catalog q) arguments) answer ∈ es ∧ answer.affected ≠ 0 ∧
        q.entry? field = some v := by
  rw [recorded, List.mem_filterMap]
  constructor
  · rintro ⟨⟨request, reply⟩, he, hv⟩
    unfold Exchange.recorded? at hv
    split at hv
    next c q arguments answer heq =>
      cases heq
      split at hv
      next => cases hv
      next haffected => exact ⟨c, q, arguments, answer, he, haffected, hv⟩
    next => cases hv
  · rintro ⟨c, q, arguments, answer, he, haffected, hv⟩
    exact ⟨_, he, (if_neg haffected).trans hv⟩

namespace Catalog

variable {className field : String} {declared : Field} {type : FieldType}

theorem entryOf?_schemaOfField : Database.entryOf? (schemaOfField className field type).toJson field =
    some (storedField className field type).toJson := by
  have hdeclared : (Schema.declare field type []).get? field = some (.ofType type) := if_pos rfl
  rw [Schema.entryOf?_toJson, schemaOfField, Schema.get?_toStorage, hdeclared, Option.or_some, storedField]
  rfl

theorem query_declares {q : CatalogStatement} (h : q.writes = true →
    q = .addRow className (schemaOfField className field declared.type).toJson true ∨
      q = .setEntry className (fieldPath field) declared.toJson) :
    (query q).Follows (.declaring className field declared) := .query trivial fun _ => h

theorem addition_declares : (do addStorage className field declared.type; addEntry className field declared :
    Operation Unit).Follows (.declaring className field declared) := by
  have hrow : (addRow (schemaOfField className field declared.type) true).Follows (.declaring className field declared) :=
    (query_declares fun _ => .inl rfl).bind fun _ => .pure _
  have hdefine : ∀ d, (define d).Follows (.declaring className field declared) := fun d => .send trivial
  refine Operation.Follows.bind ?_ fun _ => (query_declares (q := .fieldEntry className field) nofun).bind fun answer => ?_
  · rw [addStorage]
    cases declared.type.column? with
    | some column =>
        refine (Operation.Follows.attempt trivial trivial trivial trivial).bind fun failure => .ite ?_ (.pure _)
        exact (hdefine _).bind fun _ => ((hdefine _).bind fun _ => .forM fun _ => hdefine _).bind fun _ => hrow
    | none => exact hdefine _
  · cases answer.rows with
    | nil => exact hrow
    | cons row _ =>
        refine (Operation.Follows.ofResult _).bind fun entry => ?_
        cases entry with
        | some entry => exact .ofResult _
        | none => exact (query_declares fun _ => .inr rfl).bind fun _ => .pure _

end Catalog

namespace Store

variable {s : Store} {className field : String} {declared : Field} {es : List Exchange}

theorem Announced.request_ne {className : Option String} (h : s.Announced className es) :
    ∀ e ∈ es, ∀ c q arguments, e.request ≠ .execute c (.catalog q) arguments := by
  cases h with
  | silent => exact List.forall_mem_nil _
  | published _ hes => cases hes <;> simp [Exchange.ofSuccess]

/-- Whatever is asked about the catalog is asked inside the transaction. -/
theorem Closes.mem_inside {inside : List Exchange} {r : Result Unit} (h : s.Closes className inside es r)
    {c : Connection} {q : CatalogStatement} {arguments : List Wire.Argument} {answer : Answer}
    (he : .ofSuccess (.execute c (.catalog q) arguments) answer ∈ es) :
    .ofSuccess (.execute c (.catalog q) arguments) answer ∈ inside := by
  cases h with
  | committed hafter =>
      rcases List.mem_append.mp he with hin | hafter'
      · rcases hin with _ | ⟨_, _ | ⟨_, hin⟩⟩
        exact hin
      · rcases hafter' with _ | ⟨_, hmem⟩
        exact absurd rfl (hafter.request_ne _ hmem c q arguments)
  | rolledBack hclose f =>
      rcases List.mem_append.mp he with hin | hlast
      · rcases hin with _ | ⟨_, _ | ⟨_, hin⟩⟩
        exact hin
      · cases List.mem_singleton.mp hlast
        cases hclose

/--
What a field that is added leaves in the catalog is all that has been declared of it, unless a row is added for its
class: that only says of which type the field is.
-/
theorem addField_records_iff {u : Unit} (h : (s.addField className field declared).run.Converses es (.ok u)) :
    (∀ v ∈ recorded field es, v = declared.toJson) ↔
      (∀ e ∈ es, ¬e.AddsRow) ∨ declared = Catalog.storedField className field declared.type := by
  obtain ⟨inside, hcloses, hinside⟩ := addField_closes_ok h
  have hdeclares : ∀ {c : Connection} {q : CatalogStatement} {arguments : List Wire.Argument} {answer : Answer},
      .ofSuccess (.execute c (.catalog q) arguments) answer ∈ es → q.writes = true →
        q = .addRow className (Catalog.schemaOfField className field declared.type).toJson true ∨
          q = .setEntry className (Catalog.fieldPath field) declared.toJson := fun he =>
    (Catalog.addition_declares _ _ hinside).1 _ (hcloses.mem_inside he)
  constructor
  · intro hrecorded
    refine or_iff_not_imp_left.mpr fun hadds => ?_
    obtain ⟨e, he, c, name, doc, ignoreConflict, arguments, answer, rfl, haffected⟩ := by push Not at hadds; exact hadds
    rcases hdeclares he rfl with hq | hq
    · have hentry := hrecorded _ (mem_recorded.mpr ⟨c, _, arguments, answer, he, haffected, by rw [hq]; exact Catalog.entryOf?_schemaOfField⟩)
      exact (Field.toJson_injective hentry).symm
    · cases hq
  · intro hor v hv
    obtain ⟨c, q, arguments, answer, he, haffected, hentry⟩ := mem_recorded.mp hv
    have hwrites : q.writes = true := by
      cases q <;> first | rfl | cases hentry
    rcases hdeclares he hwrites with rfl | rfl
    · rcases hor with hnone | heq
      · exact absurd ⟨_, _, _, _, _, _, rfl, haffected⟩ (hnone _ he)
      · cases Catalog.entryOf?_schemaOfField.symm.trans hentry
        exact heq ▸ rfl
    · exact (Option.some.inj ((if_pos rfl).symm.trans hentry)).symm

/-- A field that has to be given, with a default. -/
def requiredTitle : Field := ⟨.string, some true, some (.string "x")⟩

/-- A field with options is recorded with them where its class has a row. -/
theorem addField_records_iff_columnTaken :
    ∃ es, (Store.addField (.create false false none) "Post" "title" requiredTitle).run.Converses es (.ok ()) ∧
      recorded "title" es = [requiredTitle.toJson] ∧ ∀ e ∈ es, ¬e.AddsRow := by
  let program := (Store.addField (.create false false none) "Post" "title" requiredTitle).run
  have hconverses : program.Converses (program.exchanges replyColumnTaken ()) (.ok ()) :=
    program.converses_run replyColumnTaken ()
  have hrecorded : recorded "title" (program.exchanges replyColumnTaken ()) = [requiredTitle.toJson] := rfl
  have hstored : requiredTitle ≠ Catalog.storedField "Post" "title" .string :=
    fun h => nomatch congrArg Field.required h
  refine ⟨_, hconverses, hrecorded, ((addField_records_iff hconverses).mp fun v hv => ?_).resolve_right hstored⟩
  exact List.mem_singleton.mp (hrecorded ▸ hv)

/-- A field with options is recorded without them where its class has no row. -/
theorem addField_drops_options :
    ∃ es, (Store.addField (.create false false none) "Post" "title" requiredTitle).run.Converses es (.ok ()) ∧
      (∀ arguments answer,
        .ofSuccess (.execute .pooled (.catalog (.fieldEntry "Post" "title")) arguments) answer ∈ es → answer.rows = []) ∧
      recorded "title" es = [(Field.ofType .string).toJson] ∧ (Field.ofType .string).toJson ≠ requiredTitle.toJson := by
  let program := (Store.addField (.create false false none) "Post" "title" requiredTitle).run
  refine ⟨_, program.converses_run (steadyReply (fun _ => none) ⟨[], 1⟩) (), fun arguments answer he => ?_, rfl, ?_⟩
  · cases Program.reply_of_mem_exchanges he
    rfl
  · exact fun h => nomatch congrArg Field.required (Field.toJson_injective h)

end Store

end Docstore
