import Docstore.Proofs.Store.Growth

/-!
# Upgrades

What an upgrade makes of the table and of the row of a class (`upgrade_converges_iff`): every field of the schema has
its column, and there is nothing left to upgrade, unless a field is named like a column of the system or the row of
the class has no object of fields.
-/

namespace Docstore

open Docstore.Engine
open Docstore.Sql (CatalogStatement Columns Database DefinedType Definition)
open Docstore.Server (Brings Idle Step)

variable {db db' : Database}

/-! ## Fields of schemas -/

namespace Schema

variable {s : Schema} {e : String × Field}

/-- The fields of users that are named like a hidden one have the same column. -/
def KeepsHidden (s : Schema) : Prop := s.className = userClass → ∀ e ∈ s.fields, ∀ hidden,
  userHiddenFields.get? e.1 = some hidden → ∀ column, e.2.type.column? = some column → hidden.column? = some column

theorem get?_of_mem_toStorage (hnames : (Fields.names s.fields).Nodup) (he : e ∈ s.toStorage.fields) :
    Fields.get? e.1 s.toStorage.fields = some e.2 :=
  (Fields.get?_eq_some_iff (isStored_toStorage hnames).nodup _ _).mpr he

/-- A field of the storage form is one that every such form has, or is declared by the schema. -/
theorem storage_or_declared (hnames : (Fields.names s.fields).Nodup) (he : e ∈ s.toStorage.fields) :
    Fields.get? e.1 s.storageFields = some e.2 ∨ Fields.get? e.1 s.storageFields = none ∧ e ∈ s.fields := by
  have hget := get?_of_mem_toStorage hnames he
  rw [get?_toStorage] at hget
  rcases Option.or_eq_some_iff.mp hget with hstorage | ⟨hnone, hdeclared⟩
  · exact .inl hstorage
  · exact .inr ⟨hnone, Fields.mem_of_get?_eq_some hdeclared⟩

theorem KeepsHidden.toStorage (h : s.KeepsHidden) (hnames : (Fields.names s.fields).Nodup) :
    s.toStorage.KeepsHidden := by
  intro huser e he hidden hhidden column hcolumn
  rcases storage_or_declared hnames he with hstorage | ⟨-, hdeclared⟩
  · have hmem := Fields.mem_of_get?_eq_some hstorage
    have huser' : s.isUserClass = true := beq_iff_eq.mpr huser
    rw [storageFields, huser'] at hmem
    obtain ⟨name, f⟩ := e
    simp only [if_true, List.cons_append, List.nil_append, List.mem_cons, Prod.mk.injEq, List.not_mem_nil, or_false] at hmem
    rcases hmem with ⟨rfl, rfl⟩ | ⟨rfl, rfl⟩ | ⟨rfl, rfl⟩ | ⟨rfl, rfl⟩
    · cases hhidden
    · cases hhidden
    · cases hhidden
    · cases hhidden
      exact hcolumn
  · exact h huser e hdeclared hidden hhidden column hcolumn

theorem storedField_type (hnames : (Fields.names s.fields).Nodup) (he : e ∈ s.toStorage.fields) :
    (Catalog.storedField s.className e.1 e.2.type).type = e.2.type := by
  have hsame : storageFields ⟨s.className, [], none, []⟩ = s.storageFields := rfl
  rw [Catalog.storedField, hsame]
  rcases storage_or_declared hnames he with hstorage | ⟨hnone, -⟩
  · rw [hstorage]
    rfl
  · rw [hnone]
    rfl

end Schema

namespace Catalog

variable {className : String} {xs : Fields Field} {e : String × Field}

/-! ## Fields one after another -/

/-- What becomes of a class where fields with columns are added to it one after another. -/
inductive GrownAll (className : String) : Fields Field → Database → Database → Prop
  | nil (db : Database) : GrownAll className [] db db
  | cons {e : String × Field} {rest : Fields Field} {db mid db' : Database} (h : Grown className e.1 e.2 db mid)
      (hrest : GrownAll className rest mid db') : GrownAll className (e :: rest) db db'

/-- A table that is created for one field has, under the name of a declared field, the column of its type. -/
theorem typed_of_schemaOfField {schema : Schema} {e x : String × Field} {defined : DefinedType}
    (hnames : (Fields.names schema.fields).Nodup) (hhidden : schema.KeepsHidden) (he : e ∈ schema.toStorage.fields)
    (hplain : e.2.type.isRelation = false) (hunique : e.1 = x.1 → e.2 = x.2)
    (hnew : Database.columnsOf (Definition.classColumns (schemaOfField schema.className x.1 x.2.type)) e.1 =
      some defined) : definedColumn? (some e.2.type) = some defined := by
  obtain ⟨column, htype⟩ := Option.ne_none_iff_exists'.mp (FieldType.isRelation_eq_false_iff.mp hplain)
  have hstored : (schemaOfField schema.className x.1 x.2.type).IsStored :=
    Schema.isStored_toStorage (List.pairwise_singleton _ _)
  rcases hstored.fits.only _ _ hnew with hfield | ⟨huser, hhidden'⟩
  · -- What the table is created with is the field itself, or one that every class has in its storage form.
    rw [Schema.fieldType?, schemaOfField, Schema.get?_toStorage] at hfield
    rcases Schema.storage_or_declared hnames he with hstorage | ⟨habsent, -⟩
    · rwa [show Fields.get? e.1 (Schema.storageFields ⟨schema.className, _, none, []⟩) = some e.2 from hstorage] at hfield
    · rw [show Fields.get? e.1 (Schema.storageFields ⟨schema.className, _, none, []⟩) = none from habsent] at hfield
      by_cases hsame : e.1 = x.1
      · rw [hunique hsame]
        rw [hsame, Option.none_or, Schema.declare, Fields.get?_insert_self] at hfield
        exact hfield
      · rw [Option.none_or, Schema.declare, Fields.get?_insert_of_ne hsame] at hfield
        cases hfield
  · obtain ⟨hidden, columnType, hget, hcolumn', rfl⟩ := definedColumn?_eq_some.mp hhidden'
    rw [hhidden.toStorage hnames huser e he hidden hget column htype] at hcolumn'
    cases hcolumn'
    exact definedColumn?_eq_some.mpr ⟨_, _, rfl, htype, rfl⟩

namespace GrownAll

variable {P : Database → Prop}

/-- What holds in the beginning and of each field that is added holds in the end. -/
theorem keeps (h : GrownAll className xs db db') (hP : P db)
    (hstep : ∀ e ∈ xs, ∀ db db', P db → Grown className e.1 e.2 db db' → P db') : P db' := by
  induction h with
  | nil => exact hP
  | cons h _ ih => exact ih (hstep _ (.head _) _ _ hP h) fun e he => hstep e (.tail _ he)

/-- What comes about by adding a field, and is kept where others are, holds in the end. -/
theorem reaches (h : GrownAll className xs db db') (he : e ∈ xs)
    (hnew : ∀ db db', Grown className e.1 e.2 db db' → P db')
    (hstep : ∀ e ∈ xs, ∀ db db', P db → Grown className e.1 e.2 db db' → P db') : P db' := by
  induction h with
  | nil => cases he
  | cons h hrest ih =>
      cases he with
      | head => exact hrest.keeps (hnew _ _ h) fun e he => hstep e (.tail _ he)
      | tail _ he => exact ih he fun e he => hstep e (.tail _ he)

theorem column?_kept {other : String} {defined : DefinedType} (h : GrownAll className xs db db')
    (hcolumn : db.column? className other = some defined) : db'.column? className other = some defined :=
  h.keeps hcolumn fun _ _ _ _ hcolumn hgrown => hgrown.column?_kept hcolumn

theorem column?_system {other : String} (h : GrownAll className xs db db') (hsystem : other ∈ Sql.systemColumns) :
    db'.column? className other = db.column? className other :=
  h.keeps (P := fun mid => mid.column? className other = db.column? className other) rfl
    fun _ _ _ _ hsame hgrown => (hgrown.column?_system hsystem).trans hsame

theorem isSome_column? (h : GrownAll className xs db db') (he : e ∈ xs) (hfield : e.1 ∉ Sql.systemColumns) :
    (db'.column? className e.1).isSome := by
  refine h.reaches (P := fun mid => (mid.column? className e.1).isSome) he
    (fun _ _ hgrown => hgrown.isSome_column? hfield) fun _ _ mid mid' hthere hgrown => ?_
  obtain ⟨defined, hdefined⟩ := Option.isSome_iff_exists.mp hthere
  rw [hgrown.column?_kept hdefined]
  rfl

/-! ### Rows -/

/-- A row has an object of fields just if it had one before, or there was no row. -/
theorem hasFields (h : GrownAll className xs db db') (hrow : ∀ doc, db.rows className = some doc → HasFields doc) :
    ∀ doc, db'.rows className = some doc → HasFields doc := by
  refine h.keeps (P := fun mid => ∀ doc, mid.rows className = some doc → HasFields doc) hrow
    fun _ _ mid mid' hmid hgrown doc hdoc => ?_
  rcases hgrown.row_cases with ⟨-, hnew⟩ | ⟨before, hbefore, ⟨-, hset⟩ | ⟨hkept, -⟩⟩
  · cases hdoc.symm.trans hnew
    exact hasFields_toJson _
  · cases hdoc.symm.trans hset
    exact hasFields_setAt.mpr (hmid _ hbefore)
  · cases hdoc.symm.trans hkept
    exact hmid _ hbefore

theorem not_hasFields {doc : Json} (h : GrownAll className xs db db') (hrow : db.rows className = some doc)
    (hfields : ¬HasFields doc) : ∃ doc', db'.rows className = some doc' ∧ ¬HasFields doc' := by
  refine h.keeps (P := fun mid => ∃ doc', mid.rows className = some doc' ∧ ¬HasFields doc') ⟨doc, hrow, hfields⟩
    fun _ _ mid mid' hmid hgrown => ?_
  obtain ⟨before, hbefore, hnot⟩ := hmid
  rcases hgrown.row_cases with ⟨hnone, -⟩ | ⟨doc', hdoc', ⟨-, hset⟩ | ⟨hkept, -⟩⟩
  · cases hbefore.symm.trans hnone
  · cases hbefore.symm.trans hdoc'
    exact ⟨_, hset, fun hhas => hnot (hasFields_setAt.mp hhas)⟩
  · cases hbefore.symm.trans hdoc'
    exact ⟨_, hkept, hnot⟩

/-- A field that has been added is declared in the row, if that has an object of fields. -/
theorem tells (h : GrownAll className xs db db') (he : e ∈ xs)
    (hstored : (storedField className e.1 e.2.type).type = e.2.type) :
    ∃ doc, db'.rows className = some doc ∧ (HasFields doc → Tells doc e.1 e.2.type) := by
  refine h.reaches (P := fun mid => ∃ doc, mid.rows className = some doc ∧ (HasFields doc → Tells doc e.1 e.2.type)) he
    (fun _ _ hgrown => ?_) fun other _ mid mid' hmid hgrown => ?_
  · rcases hgrown.row_cases with ⟨-, hnew⟩ | ⟨doc, -, ⟨-, hset⟩ | ⟨hkept, htells⟩⟩
    · have htells := tells_of_toJson (@entryOf?_schemaOfField className e.1 e.2.type)
      rw [hstored] at htells
      exact ⟨_, hnew, fun _ => htells⟩
    · exact ⟨_, hset, fun hhas => tells_of_toJson ((entryOf?_setAt (hasFields_setAt.mp hhas)).trans (if_pos rfl))⟩
    · exact ⟨doc, hkept, fun _ => htells⟩
  · obtain ⟨before, hbefore, htells⟩ := hmid
    rcases hgrown.row_cases with ⟨hnone, -⟩ | ⟨doc, hdoc, ⟨hentry, hset⟩ | ⟨hkept, -⟩⟩
    · cases hbefore.symm.trans hnone
    · cases hbefore.symm.trans hdoc
      refine ⟨_, hset, fun hhas => ?_⟩
      obtain ⟨entry, kept, f, hthere, hkept, hf, htype⟩ := htells (hasFields_setAt.mp hhas)
      -- The other field has been set because nothing was said of it, so it is another one.
      have hne : e.1 ≠ other.1 := by
        rintro hsame
        rw [hsame, hentry] at hthere
        cases hthere
      exact ⟨entry, kept, f, (entryOf?_setAt (hasFields_setAt.mp hhas)).trans ((if_neg hne).trans hthere), hkept, hf, htype⟩
    · cases hbefore.symm.trans hdoc
      exact ⟨_, hkept, htells⟩

/-- A field without a column gets the column of its type, if it gets one. -/
theorem column?_typed {schema : Schema} {defined : DefinedType} (hnames : (Fields.names schema.fields).Nodup)
    (hhidden : schema.KeepsHidden) (h : GrownAll schema.className xs db db')
    (hxs : ∀ e ∈ xs, e ∈ schema.toStorage.fields) (he : e ∈ schema.toStorage.fields)
    (hplain : e.2.type.isRelation = false) (hnone : db.column? schema.className e.1 = none)
    (hcolumn : db'.column? schema.className e.1 = some defined) : definedColumn? (some e.2.type) = some defined := by
  have hunique : ∀ {x : String × Field}, x ∈ xs → e.1 = x.1 → e.2 = x.2 := by
    intro x hx hsame
    have hget := Schema.get?_of_mem_toStorage hnames (hxs x hx)
    rw [← hsame, Schema.get?_of_mem_toStorage hnames he] at hget
    exact Option.some.inj hget
  refine h.keeps (P := fun mid => ∀ defined, mid.column? schema.className e.1 = some defined →
    definedColumn? (some e.2.type) = some defined) (fun _ h => nomatch hnone.symm.trans h)
    (fun x hx mid mid' hmid hgrown defined hdefined => ?_) defined hcolumn
  rcases hgrown.column?_cases hdefined with hbefore | ⟨hsame, -, hnew⟩ | ⟨-, -, hnew⟩
  · exact hmid defined hbefore
  · rw [hunique hx hsame]
    exact hnew
  · exact typed_of_schemaOfField hnames hhidden he hplain (hunique hx) hnew

end GrownAll

end Catalog

/-! ## Listing columns -/

/-- Only the names of the columns of a table are asked for. -/
def Engine.Request.ListsColumns (table : String) : Request → Prop
  | .connect c => c = .pooled
  | .prepare c p | .execute c p _ => c = .pooled ∧ p = .catalog (.columnsOf table)
  | .send _ _ => False

namespace Store

variable {store : Store} {schema : Schema} {s t : Server} {es : List Exchange} {r : Result Unit}

theorem addFields_brings {className : String} {xs : Fields Field} (hplain : ∀ e ∈ xs, e.2.type.isRelation = false)
    (hne : db.tables className = none → className ≠ Schema.catalogTable) :
    Brings (· = db) (xs.forM fun (name, f) => store.addField className name f) fun _ =>
      Catalog.GrownAll className xs db := by
  induction xs generalizing db with
  | nil =>
      refine .pure fun s hs => hs.mono fun db' hdb => ?_
      rw [hdb]
      exact .nil db
  | cons e xs ih =>
      refine (addField_brings (hplain e (.head _)) hne).bind fun _ => Server.Brings.each fun mid hgrown => ?_
      have hthere : mid.tables className = none → className ≠ Schema.catalogTable := fun hnone => by
        have hsome := hgrown.isSome_table
        rw [hnone] at hsome
        cases hsome
      exact (ih (fun e he => hplain e (.tail _ he)) hthere).mono (fun _ hs => hs)
        (fun _ _ hs => hs.mono fun _ h => .cons hgrown h) fun _ _ h => h

/-- An upgrade lists the columns of the table, and then adds fields to the database that has been listed. -/
theorem upgrade_lists (hidle : s.transaction = none) (h : (store.upgrade schema).run.Converses es r)
    (hserves : Service.Serves Step s es t) :
    ∃ listing rest, es = listing ++ rest ∧ (∀ e ∈ listing, e.request.ListsColumns schema.className) ∧
      (rest = [] ∧ (∃ f, r = .error f) ∨ ∃ names u,
        (∀ name, name ∈ names ↔ (s.committed.column? schema.className name).isSome) ∧ u.Idle (· = s.committed) ∧
        ((missingFields schema names).forM fun (name, f) => store.addField schema.className name f :
          Operation Unit).run.Converses rest r ∧ Service.Serves Step u rest t) := by
  let d : Discipline := .asking (Request.ListsColumns schema.className)
  have hconnects : (store.connect .pooled).Follows d := connect_allowed rfl
  have hqueries : (Catalog.query (.columnsOf schema.className)).Follows d := .query ⟨rfl, rfl⟩ fun _ => ⟨rfl, rfl⟩
  rcases Operation.converses_bind.mp h with ⟨u, xs, ys, rfl, hconnect, hrest⟩ | ⟨f, hconnect, rfl⟩
  case inr => exact ⟨es, [], (List.append_nil es).symm, (hconnects es _ hconnect).1, .inl ⟨rfl, f, rfl⟩⟩
  obtain ⟨s₁, hs₁, hserves⟩ := Service.serves_append.mp hserves
  have hconnected : s₁.Idle (· = s.committed) := Server.connect_idle (P := (· = s.committed)) s xs _ s₁ ⟨hidle, rfl⟩ hconnect hs₁
  have hxs := (hconnects xs _ hconnect).1
  rcases Operation.converses_bind.mp hrest with ⟨answer, zs, ws, rfl, hquery, hrest⟩ | ⟨f, hquery, rfl⟩
  case inr => exact ⟨xs ++ ys, [], (List.append_nil _).symm, List.forall_mem_append.mpr ⟨hxs, (hqueries ys _ hquery).1⟩,
    .inl ⟨rfl, f, rfl⟩⟩
  obtain ⟨s₂, hs₂, hserves⟩ := Service.serves_append.mp hserves
  have hlisted : s₂.Idle fun db => db = s.committed ∧ db.Answers (.columnsOf schema.className) answer.rows :=
    Server.read_idle (Q := fun rows db => db = s.committed ∧ db.Answers (.columnsOf schema.className) rows) rfl
      (fun _ _ hdb ha => ⟨hdb, ha⟩) s₁ zs _ s₂ hconnected hquery hs₂
  have hzs := List.forall_mem_append.mpr ⟨hxs, (hqueries zs _ hquery).1⟩
  rcases Operation.converses_bind.mp hrest with ⟨names, vs, rest, rfl, hnames, hadd⟩ | ⟨f, hnames, rfl⟩
  · obtain ⟨rfl, hok⟩ := Operation.converses_ofResult.mp hnames
    obtain ⟨names', hnames', hlists⟩ := hlisted.2.2
    cases hok.trans hnames'
    refine ⟨xs ++ zs, rest, List.append_assoc .. |>.symm, hzs, .inr ⟨names, s₂, fun name => ?_, ?_, hadd, hserves⟩⟩
    · rw [hlists, hlisted.2.1, Database.column?]
      cases s.committed.tables schema.className <;> simp
    · exact hlisted.mono fun _ h => h.1
  · obtain ⟨rfl, -⟩ := Operation.converses_ofResult.mp hnames
    exact ⟨xs ++ zs, [], List.append_assoc .. |>.symm, hzs, .inl ⟨rfl, f, rfl⟩⟩

/-! ## What upgrades come to -/

theorem mem_missingFields {names : List String} {e : String × Field} : e ∈ missingFields schema names ↔
    e ∈ schema.toStorage.fields ∧ e.2.type.isRelation = false ∧ e.1 ∉ names := by
  simp [missingFields]

/--
What an upgrade is for. Every field of the schema that is no relation has a column; columns that were there are as they
were; a column that was not is of the type of its field, which is in the catalog with that type; and whoever upgrades
the class again asks for its columns and nothing more.
-/
structure Converged (schema : Schema) (s t : Server) : Prop where
  columns : ∀ e ∈ schema.toStorage.fields, e.2.type.isRelation = false →
    (t.committed.column? schema.className e.1).isSome
  kept : ∀ name defined, s.committed.column? schema.className name = some defined →
    t.committed.column? schema.className name = some defined
  added : ∀ e ∈ schema.toStorage.fields, e.2.type.isRelation = false →
    s.committed.column? schema.className e.1 = none →
      t.committed.column? schema.className e.1 = definedColumn? (some e.2.type) ∧
        ∃ doc, t.committed.rows schema.className = some doc ∧ Catalog.Tells doc e.1 e.2.type
  settled : ∀ (store : Store) es r u, (store.upgrade schema).run.Converses es r → Service.Serves Step t es u →
    ∀ e ∈ es, e.request.ListsColumns schema.className

/-- Where every field has its column, an upgrade adds nothing. -/
theorem upgrade_settled (hidle : t.transaction = none) (hcolumns : ∀ e ∈ schema.toStorage.fields,
      e.2.type.isRelation = false → (t.committed.column? schema.className e.1).isSome) {u : Server}
    (h : (store.upgrade schema).run.Converses es r) (hserves : Service.Serves Step t es u) :
    ∀ e ∈ es, e.request.ListsColumns schema.className := by
  obtain ⟨listing, rest, rfl, hlisting, ⟨rfl, -⟩ | ⟨names, v, hnames, -, hadd, -⟩⟩ := upgrade_lists hidle h hserves
  · rwa [List.append_nil]
  · have hnone : missingFields schema names = [] := by
      refine List.eq_nil_iff_forall_not_mem.mpr fun e he => ?_
      obtain ⟨hmem, hplain, hmissing⟩ := mem_missingFields.mp he
      exact hmissing ((hnames _).mpr (hcolumns e hmem hplain))
    rw [hnone] at hadd
    obtain ⟨rfl, -⟩ := Operation.converses_pure.mp hadd
    rwa [List.append_nil]

/--
An upgrade that succeeds has done what it is for, unless a field that had no column is named like a column of the
system, or is to be set in a row without an object of fields.
-/
theorem upgrade_converges_iff (hnames : (Fields.names schema.fields).Nodup) (hhidden : schema.KeepsHidden)
    (hclass : s.committed.tables schema.className = none → schema.className ≠ Schema.catalogTable)
    (hidle : s.transaction = none) (h : (store.upgrade schema).Leads Step s (.ok ()) t) :
    Converged schema s t ↔ ∀ e ∈ schema.toStorage.fields, e.2.type.isRelation = false →
      s.committed.column? schema.className e.1 = none → e.1 ∉ Sql.systemColumns ∧
        ∀ doc, s.committed.rows schema.className = some doc → Catalog.HasFields doc := by
  obtain ⟨es, hes, hserves⟩ := h
  obtain ⟨listing, rest, rfl, -, ⟨-, f, hf⟩ | ⟨names, u, hlisted, hu, hadd, hserves⟩⟩ := upgrade_lists hidle hes hserves
  · cases hf
  have hmissing : ∀ e, e ∈ missingFields schema names ↔ e ∈ schema.toStorage.fields ∧ e.2.type.isRelation = false ∧
      s.committed.column? schema.className e.1 = none := by
    intro e
    rw [mem_missingFields, hlisted, Option.not_isSome_iff_eq_none]
  obtain ⟨ht, hgrown⟩ : t.Idle (Catalog.GrownAll schema.className (missingFields schema names) s.committed) :=
    addFields_brings (fun e he => ((hmissing e).mp he).2.1) hclass u rest _ t hu hadd hserves
  constructor
  · intro hconverged e he hplain hnone
    refine ⟨fun hsystem => ?_, fun doc hdoc => ?_⟩
    · have hcolumn := hconverged.columns e he hplain
      rw [hgrown.column?_system hsystem, hnone] at hcolumn
      cases hcolumn
    · by_contra hnot
      obtain ⟨doc', hdoc', hnot'⟩ := hgrown.not_hasFields hdoc hnot
      obtain ⟨-, doc'', hdoc'', entry, -, -, hentry, -⟩ := hconverged.added e he hplain hnone
      cases hdoc'.symm.trans hdoc''
      exact hnot' (Catalog.hasFields_of_entry hentry)
  · intro hgood
    have hnew : ∀ e ∈ schema.toStorage.fields, e.2.type.isRelation = false →
        s.committed.column? schema.className e.1 = none → (t.committed.column? schema.className e.1).isSome :=
      fun e he hplain hnone => hgrown.isSome_column? ((hmissing e).mpr ⟨he, hplain, hnone⟩) (hgood e he hplain hnone).1
    have hcolumns : ∀ e ∈ schema.toStorage.fields, e.2.type.isRelation = false →
        (t.committed.column? schema.className e.1).isSome := by
      intro e he hplain
      cases hbefore : s.committed.column? schema.className e.1 with
      | none => exact hnew e he hplain hbefore
      | some defined => exact Option.isSome_iff_exists.mpr ⟨defined, hgrown.column?_kept hbefore⟩
    refine ⟨hcolumns, fun _ _ => hgrown.column?_kept, fun e he hplain hnone => ⟨?_, ?_⟩,
      fun _ _ _ _ => upgrade_settled ht hcolumns⟩
    · obtain ⟨defined, hdefined⟩ := Option.isSome_iff_exists.mp (hnew e he hplain hnone)
      rw [hdefined]
      exact (hgrown.column?_typed hnames hhidden (fun e he => ((hmissing e).mp he).1) he hplain hnone hdefined).symm
    · obtain ⟨doc, hdoc, htells⟩ :=
        hgrown.tells ((hmissing e).mpr ⟨he, hplain, hnone⟩) (Schema.storedField_type hnames he)
      exact ⟨doc, hdoc, htells (hgrown.hasFields (hgood e he hplain hnone).2 doc hdoc)⟩

/-! ## A class with a field more -/

/-- A class that is declared without fields, and whose table only has the columns that every class has. -/
def bareTable : Database :=
  ((Database.empty.setTable Schema.catalogTable fun _ => none).setTable "Post"
    (Database.columnsOf [⟨"_wperm", .column .textArray⟩, ⟨"_rperm", .column .textArray⟩])).setRow "Post"
      (.object [("fields", .object [])])

/-- The class with one field. -/
def postsWith (field : String) : Schema := ⟨"Post", [(field, .ofType .string)], none, []⟩

/-- The columns of the table, as they are listed. -/
def bareListing : List Wire.Row :=
  [⟨[⟨"column_name", .text⟩], [some [95, 119, 112, 101, 114, 109]]⟩,
    ⟨[⟨"column_name", .text⟩], [some [95, 114, 112, 101, 114, 109]]⟩]

/-- A server with that table, where adding a column may fail. -/
def replyBareTable (fault? : Option EngineFault) : (r : Request) → Unit → r.Reply × Unit
  | .connect _, _ => (.ok (), ())
  | .send _ (.define (.addColumn _ _)), _ => (match fault? with
    | some f => .error f
    | none => .ok (), ())
  | .send _ _, _ => (.ok (), ())
  | .prepare _ p, _ => (.ok (p.values.map plainType), ())
  | .execute _ (.catalog (.columnsOf _)) _, _ => (.ok ⟨bareListing, 2⟩, ())
  | .execute _ _ _, _ => (.ok ⟨[⟨[⟨"?column?", .jsonb⟩], [none]⟩], 1⟩, ())

theorem bareTable_lists : bareTable.Answers (.columnsOf "Post") bareListing := by
  refine ⟨["_wperm", "_rperm"], rfl, fun name => ⟨fun hname => ?_, ?_⟩⟩
  · simp only [List.mem_cons, List.not_mem_nil, or_false] at hname
    rcases hname with rfl | rfl
    · exact ⟨_, rfl, rfl⟩
    · exact ⟨_, rfl, rfl⟩
  · rintro ⟨columns, hcolumns, hsome⟩
    cases hcolumns
    obtain ⟨defined, hdefined⟩ := Option.isSome_iff_exists.mp hsome
    obtain ⟨c, hc, rfl⟩ := Catalog.mem_of_columnsOf hdefined
    simp only [List.mem_cons, List.not_mem_nil, or_false] at hc ⊢
    exact hc.imp (congrArg _) (congrArg _)

/-- A class gets a column for a field that it has not had before. -/
theorem upgrade_converges_iff_title : ∃ t, ((Store.create false false none).upgrade (postsWith "title")).Leads Step
    ⟨bareTable, none⟩ (.ok ()) t ∧ Converged (postsWith "title") ⟨bareTable, none⟩ t := by
  let program := ((Store.create false false none).upgrade (postsWith "title")).run
  have hconverses : program.Converses (program.exchanges (replyBareTable none) ()) (.ok ()) :=
    program.converses_run (replyBareTable none) ()
  obtain ⟨t, hleads⟩ : ∃ t, ((Store.create false false none).upgrade (postsWith "title")).Leads Step
      ⟨bareTable, none⟩ (.ok ()) t :=
    ⟨_, program.exchanges (replyBareTable none) (), hconverses,
      .cons .connected <| .cons (.done rfl rfl rfl trivial) <| .cons (.done rfl rfl rfl bareTable_lists) <|
      .cons .connected <| .cons (.started rfl) <| .cons (.saved rfl) <| .cons (.done rfl rfl rfl trivial) <|
      .cons (.released rfl) <| .cons (.done rfl rfl rfl trivial) <|
      .cons (.done rfl rfl rfl ⟨_, none, rfl, rfl, .none⟩) <| .cons (.done rfl rfl rfl trivial) <|
      .cons (.done rfl rfl rfl trivial) <| .cons (.committed rfl) (.nil _)⟩
  have hplain : ∀ e ∈ (postsWith "title").toStorage.fields, e.1 ∉ Sql.systemColumns := by decide
  have huser : (postsWith "title").className ≠ Schema.userClass := by decide
  refine ⟨t, hleads, (upgrade_converges_iff (by decide) (fun h => absurd h huser) (fun _ => by decide) rfl hleads).mpr
    fun e he _ _ => ⟨hplain e he, fun doc hdoc => ?_⟩⟩
  cases hdoc
  exact ⟨_, rfl⟩

/-- What a server answers where a column is to be named like one of the system. -/
def systemNameTaken : EngineFault :=
  .server ⟨"42701", "column name \"xmin\" conflicts with a system column name", none⟩

/-- A column that cannot be added is taken for one that is there, so that the field is declared and has no column. -/
theorem upgrade_passes_over : ∃ t, ((Store.create false false none).upgrade (postsWith "xmin")).Leads Step
    ⟨bareTable, none⟩ (.ok ()) t ∧ ¬Converged (postsWith "xmin") ⟨bareTable, none⟩ t := by
  let program := ((Store.create false false none).upgrade (postsWith "xmin")).run
  have hconverses : program.Converses (program.exchanges (replyBareTable (some systemNameTaken)) ()) (.ok ()) :=
    program.converses_run (replyBareTable (some systemNameTaken)) ()
  have htrue : Server.IsTrue (.ofCause (.driver systemNameTaken))
      (bareTable.define (Definition.newColumn "Post" "xmin" .text)) := by
    intro state _ hstate
    cases Error.hasState_unique hstate (t := .duplicateColumn) rfl
    rfl
  obtain ⟨t, hleads, hcolumn⟩ : ∃ t, ((Store.create false false none).upgrade (postsWith "xmin")).Leads Step
      ⟨bareTable, none⟩ (.ok ()) t ∧ t.committed.column? "Post" "xmin" = none :=
    ⟨_, ⟨program.exchanges (replyBareTable (some systemNameTaken)) (), hconverses,
      .cons .connected <| .cons (.done rfl rfl rfl trivial) <| .cons (.done rfl rfl rfl bareTable_lists) <|
      .cons .connected <| .cons (.started rfl) <| .cons (.saved rfl) <| .cons (.failed rfl rfl htrue) <|
      .cons (.returned rfl rfl) <| .cons (.done rfl rfl rfl trivial) <|
      .cons (.done rfl rfl rfl ⟨_, none, rfl, rfl, .none⟩) <| .cons (.done rfl rfl rfl trivial) <|
      .cons (.done rfl rfl rfl trivial) <| .cons (.committed rfl) (.nil _)⟩, rfl⟩
  refine ⟨t, hleads, fun hconverged => ?_⟩
  have hthere := hconverged.columns ("xmin", .ofType .string) (.head _) rfl
  rw [show (postsWith "xmin").className = "Post" from rfl, hcolumn] at hthere
  cases hthere

end Store

end Docstore
