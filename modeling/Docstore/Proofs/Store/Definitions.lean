import Docstore.Proofs.Store.FieldEntries

/-!
# Tables that are created and dropped

The definitions that an operation sends, whatever it is replied (`Operation.Defines`), and with them the tables that are
created where a class is created (`createClass_creates`) and where a field is added to it (`addField_creates`).
-/

namespace Docstore

open Docstore.Engine
open Docstore.Sql (Definition)

/-! ## What is defined -/

namespace Engine

def definitions (es : List Exchange) : List Definition := es.filterMap fun e => e.request.definition?

/-- The discipline under which nothing is defined. -/
def Discipline.undefining : Discipline := .asking fun r => r.definition? = none

section Definitions

variable {es xs ys : List Exchange}

@[simp] theorem definitions_append : definitions (xs ++ ys) = definitions xs ++ definitions ys := List.filterMap_append

theorem definitions_eq_nil (h : ∀ e ∈ es, e.request.definition? = none) : definitions es = [] :=
  List.filterMap_eq_nil_iff.mpr h

theorem definitions_of_reading (h : ∀ e ∈ es, e.request.IsReading) : definitions es = [] :=
  definitions_eq_nil fun e he => (h e he).definition?_eq_none

end Definitions

namespace Operation

variable {α β : Type} {ds ds' : List Definition}

/-- An operation that sends certain definitions, and sends all of them if it succeeds. -/
def Defines (op : Operation α) (ds : List Definition) : Prop :=
  ∀ es r, op.run.Converses es r → definitions es <+: ds ∧ ∀ a, r = .ok a → definitions es = ds

namespace Defines

theorem nothing {op : Operation α} (h : op.Follows .undefining) : op.Defines [] := by
  intro es r hes
  have hnil : definitions es = [] := definitions_eq_nil (h es r hes).1
  exact ⟨List.prefix_nil.mpr hnil, fun _ _ => hnil⟩

theorem define (d : Definition) : (Catalog.define d).Defines [d] := by
  intro es r hes
  obtain ⟨reply, rfl, -⟩ := converses_ask.mp hes
  exact ⟨List.prefix_rfl, fun _ _ => rfl⟩

theorem bind {op : Operation α} {f : α → Operation β} (hop : op.Defines ds) (hf : ∀ a, (f a).Defines ds') :
    (op >>= f).Defines (ds ++ ds') := by
  intro es r hes
  rcases converses_bind.mp hes with ⟨a, xs, ys, rfl, hxs, hys⟩ | ⟨fault, hxs, rfl⟩
  · rw [definitions_append, (hop xs _ hxs).2 a rfl]
    obtain ⟨hpart, hall⟩ := hf a ys r hys
    exact ⟨(List.prefix_append_right_inj _).mpr hpart, fun b hb => congrArg _ (hall b hb)⟩
  · exact ⟨(hop es _ hxs).1.trans (List.prefix_append _ _), nofun⟩

theorem followed {op : Operation α} {f : α → Operation β} (hop : op.Defines ds)
    (hf : ∀ a, (f a).Follows .undefining) : (op >>= f).Defines ds := by
  rw [← List.append_nil ds]
  exact hop.bind fun a => nothing (hf a)

theorem forM {f : β → Operation Unit} {d : β → Definition} (h : ∀ x, (f x).Defines [d x]) (xs : List β) :
    (xs.forM f).Defines (xs.map d) := by
  induction xs with
  | nil => exact nothing (.pure ())
  | cons x xs ih => exact (h x).bind fun _ => ih

theorem mapError (f : Error → Error) {op : Operation α} (h : op.Defines ds) : (mapError f op).Defines ds := by
  intro es r hes
  obtain ⟨r', xs, ys, rfl, hxs, hys⟩ := Program.converses_bind.mp hes
  obtain ⟨hpart, hall⟩ := h xs r' hxs
  rcases r' with (e | _) | a
  all_goals
    obtain ⟨rfl, rfl⟩ := Program.converses_done.mp hys
    rw [List.append_nil]
  · exact ⟨hpart, nofun⟩
  · exact ⟨hpart, nofun⟩
  · exact ⟨hpart, fun _ _ => hall a rfl⟩

/-- The transaction itself defines nothing. -/
theorem transaction {body : Operation α} (h : body.Defines ds) : (transaction body).Defines ds := by
  have hclose : ∀ {close : Exchange}, close.request = .send .pooled (.scope .rollback) → definitions [close] = [] :=
    fun hrequest => definitions_eq_nil fun e he => by rw [List.mem_singleton.mp he, hrequest]; rfl
  have hbegun : ∀ {inside : List Exchange}, definitions (begun :: inside) = definitions inside := rfl
  intro es r hes
  cases r with
  | ok a =>
      obtain ⟨inside, rfl, hinside⟩ := converses_transaction_ok.mp hes
      obtain ⟨hpart, hall⟩ := h inside _ hinside
      have hcommitted : definitions [committed] = [] := rfl
      rw [definitions_append, hcommitted, hbegun, List.append_nil]
      exact ⟨hpart, fun _ _ => hall a rfl⟩
  | error f =>
      refine ⟨?_, nofun⟩
      cases converses_transaction_error hes with
      | unstarted f hrequest =>
          show definitions ([⟨.send .pooled (.scope .start), .error f⟩] ++ [_]) <+: ds
          rw [definitions_append, hclose hrequest]
          exact List.nil_prefix
      | rolledBack hinside hrequest =>
          rw [definitions_append, hclose hrequest, hbegun, List.append_nil]
          exact (h _ _ hinside).1
      | uncommitted hinside f =>
          have hcommit : definitions [⟨.send .pooled (.scope .commit), .error f⟩] = [] := rfl
          rw [definitions_append, hcommit, hbegun, List.append_nil]
          exact (h _ _ hinside).1

end Defines

end Operation

end Engine

/-! ## Tables that are created and dropped -/

namespace Sql.Definition

/-- The table that a definition creates, other than the catalog. -/
def created? : Definition → Option String
  | createTable name columns keys => if createTable name columns keys = catalogTable then none else some name
  | _ => none

/-- The table that a definition drops. -/
def dropped? : Definition → Option String
  | dropTable name => some name
  | _ => none

theorem created?_catalogTable : catalogTable.created? = none := by rw [catalogTable, created?, catalogTable, if_pos rfl]

/-- The table of a class is not the catalog, as it has no column of the type of the catalog's first one. -/
theorem created?_classTable (s : Schema) : (classTable s).created? = some s.className := by
  refine if_neg fun h => ?_
  obtain ⟨-, hcolumns, -⟩ := createTable.inj h
  have hfirst : (⟨"className", .varchar 120⟩ : ColumnDefinition) ∈ classColumns s := by
    rw [hcolumns]
    exact .head _
  obtain ⟨e, -, hcolumn⟩ := List.mem_filterMap.mp hfirst
  obtain ⟨column, -, hdefined⟩ := Option.map_eq_some_iff.mp hcolumn
  cases congrArg ColumnDefinition.type hdefined

theorem created?_joinTable (className field : String) :
    (joinTable className field).created? = some (Schema.joinTable className field) := by
  simp [joinTable, created?, catalogTable]

end Sql.Definition

theorem FieldType.column?_eq_none {type : FieldType} (hrelation : type.isRelation = true) : type.column? = none := by
  cases type with
  | relation target => rfl
  | _ => cases hrelation

namespace Schema

theorem mem_relations {s : Schema} (hnames : (Fields.names s.fields).Nodup) {field : String} :
    field ∈ s.relations ↔ ∃ type, s.fieldType? field = some type ∧ type.isRelation = true := by
  rw [relations, List.mem_map]
  constructor
  · rintro ⟨e, he, rfl⟩
    obtain ⟨hmem, hrelation⟩ := List.mem_filter.mp he
    refine ⟨e.2.type, ?_, hrelation⟩
    rw [fieldType?, (Fields.get?_eq_some_iff hnames _ _).mpr hmem]
    rfl
  · rintro ⟨type, htype, hrelation⟩
    obtain ⟨f, hf, rfl⟩ := Option.map_eq_some_iff.mp htype
    exact ⟨(field, f), List.mem_filter.mpr ⟨Fields.mem_of_get?_eq_some hf, hrelation⟩, rfl⟩

theorem plain_of_mem_storageFields (s : Schema) : ∀ e ∈ s.storageFields, e.2.type.isRelation = false := by
  unfold storageFields
  cases s.isUserClass <;> decide

theorem relations_schemaOfField {className field : String} {type : FieldType} (hplain : type.isRelation = false) :
    (Catalog.schemaOfField className field type).relations = [] := by
  refine List.eq_nil_iff_forall_not_mem.mpr fun other hother => ?_
  have hnames : (Fields.names (declare field type [])).Nodup := List.pairwise_singleton _ _
  obtain ⟨type', htype', hrelation⟩ := (mem_relations (isStored_toStorage hnames).nodup).mp hother
  obtain ⟨f, hf, rfl⟩ := Option.map_eq_some_iff.mp htype'
  rw [get?_toStorage] at hf
  rcases Option.or_eq_some_iff.mp hf with hf | ⟨-, hf⟩
  · cases (plain_of_mem_storageFields _ _ (Fields.mem_of_get?_eq_some hf)).symm.trans hrelation
  · cases List.mem_singleton.mp (Fields.mem_of_get?_eq_some hf)
    cases hplain.symm.trans hrelation

end Schema

namespace Engine

/-- The tables that are created, other than the catalog, whether they are there already or not. -/
def createdTables (es : List Exchange) : List String := (definitions es).filterMap Definition.created?

/-- The tables that are dropped, whether they are there or not. -/
def droppedTables (es : List Exchange) : List String := (definitions es).filterMap Definition.dropped?

@[simp] theorem createdTables_append {xs ys : List Exchange} :
    createdTables (xs ++ ys) = createdTables xs ++ createdTables ys := by
  rw [createdTables, definitions_append, List.filterMap_append]
  rfl

/-- A request that creates no table, but for that of a class. -/
def Request.CreatesOnly (className : String) (r : Request) : Prop :=
  ∀ d, r.definition? = some d → ∀ name, d.created? = some name → name = className

/-- The discipline under which no table is created, but for that of a class. -/
def Discipline.creatingOnly (className : String) : Discipline := .mending (Request.CreatesOnly className) fun _ => False

section CreatesOnly

variable {className : String}

theorem Request.CreatesOnly.of_undefining {r : Request} (h : r.definition? = none) : r.CreatesOnly className := by
  intro d hd
  rw [h] at hd
  cases hd

theorem Request.CreatesOnly.define {d : Definition} (h : d.created? = none ∨ d.created? = some className) :
    (Request.send .pooled (.define d)).CreatesOnly className := by
  intro d' hd' name hname
  cases hd'
  rcases h with hnone | hsome
  · cases hnone.symm.trans hname
  · exact (Option.some.inj (hsome.symm.trans hname)).symm

theorem createdTables_of_createsOnly {es : List Exchange} (h : ∀ e ∈ es, e.request.CreatesOnly className) :
    ∀ name ∈ createdTables es, name = className := by
  intro name hname
  obtain ⟨d, hd, hcreated⟩ := List.mem_filterMap.mp hname
  obtain ⟨e, he, hsent⟩ := List.mem_filterMap.mp hd
  exact h e he d hsent name hcreated

end CreatesOnly

end Engine

namespace Catalog

variable {className field : String} {declared : Field} {stored : Schema}

theorem query_undefining (q : Sql.CatalogStatement) : (query q).Follows .undefining := .query rfl fun _ => rfl

theorem createTables_defines : (createTables stored).Defines
    (Definition.classTable stored :: stored.relations.map (Definition.joinTable stored.className)) :=
  (Operation.Defines.define _).bind fun _ => .forM (fun _ => .define _) stored.relations

theorem query_createsOnly (q : Sql.CatalogStatement) : (query q).Follows (.creatingOnly className) :=
  .query (.of_undefining rfl) fun _ => .of_undefining rfl

/-- Where a field that is no relation is added, the table of its class is created at most. -/
theorem addition_createsOnly (hplain : declared.type.isRelation = false) :
    (do addStorage className field declared.type; addEntry className field declared : Operation Unit).Follows
      (.creatingOnly className) := by
  obtain ⟨column, hcolumn⟩ := Option.ne_none_iff_exists'.mp (FieldType.isRelation_eq_false_iff.mp hplain)
  have hdefine : ∀ {d : Definition}, d.created? = none ∨ d.created? = some className →
      (define d).Follows (.creatingOnly className) := fun h => .send (.define h)
  refine Operation.Follows.bind ?_ fun _ => addEntry_follows query_createsOnly
  rw [addStorage, hcolumn]
  refine (Operation.Follows.attempt (.define (.inl rfl)) ?_ ?_ ?_).bind fun failure => .ite ?_ (.pure _)
  · exact .of_undefining rfl
  · exact .of_undefining rfl
  · exact .of_undefining rfl
  · refine (hdefine (.inl Definition.created?_catalogTable)).bind fun _ => ?_
    refine .bind ?_ fun _ => addRow_follows query_createsOnly
    rw [createTables, Schema.relations_schemaOfField hplain]
    exact (hdefine (.inr (Definition.created?_classTable _))).bind fun _ => .pure ()

end Catalog

theorem Index.create_defines {name className : String} {columns : List Sql.IndexColumn} {unique : Bool} :
    (create name className columns unique).Defines [.createIndex name className columns unique] := by
  refine .mapError _ fun es r hes => ?_
  obtain ⟨r', xs, ys, rfl, hxs, hys⟩ := Program.converses_bind.mp hes
  obtain ⟨reply, rfl, -⟩ := Operation.converses_ask.mp hxs
  have hdone : ys = [] := by
    rcases r' with (e | _) | u
    all_goals exact (Program.converses_done.mp hys).1
  rw [hdone, List.append_nil]
  exact ⟨List.prefix_rfl, fun _ _ => rfl⟩

namespace Store

variable {s : Store} {className field : String} {declared : Field} {es : List Exchange}

theorem announce_undefining {className : Option String} : (s.announce className).Follows .undefining :=
  fun _ _ hes => ⟨(converses_announce.mp hes).2.definition?_eq_none, fun _ => trivial⟩

/-- A change of schemas sends what its transaction defines. -/
theorem defines_of_transaction {α β : Type} {body : Operation β} {close : β → Operation α} {ds : List Definition}
    (hbody : body.Defines ds) (hclose : ∀ b, (close b).Follows .undefining) :
    (do s.connect .pooled; Operation.transaction body >>= close : Operation α).Defines ds := by
  have hconnect : (s.connect .pooled).Defines [] := .nothing (connect_allowed rfl)
  exact hconnect.bind fun _ => hbody.transaction.followed hclose

/-- The indexes that a class is created with. -/
def indexDefinitions (stored : Schema) : List Definition :=
  stored.indexes.map fun e => .createIndex e.1 stored.className (Index.keyColumns e.2) false

theorem createClass_defines {schema : Schema} : (s.createClass schema).Defines (Definition.catalogTable ::
    ((Definition.classTable schema.toStorage ::
        schema.toStorage.relations.map (Definition.joinTable schema.className)) ++
      indexDefinitions schema.toStorage)) := by
  refine defines_of_transaction ?_ fun _ => announce_undefining.bind fun _ => .pure _
  refine (Operation.Defines.define _).bind fun _ => Catalog.createTables_defines.bind fun _ => ?_
  exact ((Operation.Defines.nothing (Catalog.addRow_follows Catalog.query_undefining)).mapError _).bind fun _ =>
    .forM (fun _ => Index.create_defines) _

theorem filterMap_joinTable (fields : List String) :
    (fields.map (Definition.joinTable className)).filterMap Definition.created? =
      fields.map (Schema.joinTable className) := by
  rw [List.filterMap_map, ← List.filterMap_eq_map]
  exact congrArg (fields.filterMap ·) (funext fun field => Definition.created?_joinTable className field)

/-- To create a class is to create its table and those of its relations. -/
theorem createClass_creates {schema answer : Schema} (h : (s.createClass schema).run.Converses es (.ok answer)) :
    createdTables es = tablesOf schema.toStorage := by
  have hindexes : (indexDefinitions schema.toStorage).filterMap Definition.created? = [] := by
    refine List.filterMap_eq_nil_iff.mpr fun d hd => ?_
    obtain ⟨e, -, rfl⟩ := List.mem_map.mp hd
    rfl
  rw [createdTables, (createClass_defines es _ h).2 answer rfl,
    List.filterMap_cons_none Definition.created?_catalogTable, List.filterMap_append, hindexes, List.append_nil,
    List.filterMap_cons_some (Definition.created?_classTable _), filterMap_joinTable]
  rfl

theorem Closes.definitions_eq {inside : List Exchange} {u : Unit} (h : s.Closes className inside es (.ok u)) :
    definitions es = definitions inside := by
  cases h with
  | committed hafter =>
      have hnone : definitions [Engine.committed] = [] := rfl
      rw [List.append_cons, definitions_append, definitions_append, hnone,
        definitions_eq_nil hafter.definition?_eq_none, List.append_nil, List.append_nil]
      rfl

/-- To add a relation is to create its table. -/
theorem addRelation_creates (hrelation : declared.type.isRelation = true) {u : Unit}
    (h : (s.addField className field declared).run.Converses es (.ok u)) :
    createdTables es = [Schema.joinTable className field] := by
  obtain ⟨inside, hcloses, hinside⟩ := addField_closes_ok h
  rw [Catalog.addStorage, FieldType.column?_eq_none hrelation] at hinside
  have hdefines : (do Catalog.define (.joinTable className field); Catalog.addEntry className field declared :
      Operation Unit).Defines [.joinTable className field] :=
    (Operation.Defines.define _).followed fun _ => Catalog.addEntry_follows Catalog.query_undefining
  rw [createdTables, hcloses.definitions_eq, (hdefines inside _ hinside).2 u rfl,
    List.filterMap_cons_some (Definition.created?_joinTable className field)]
  rfl

/-- To add any other field is to create the table of its class at most, if it is missing. -/
theorem addColumn_creates (hplain : declared.type.isRelation = false) {u : Unit}
    (h : (s.addField className field declared).run.Converses es (.ok u)) :
    ∀ name ∈ createdTables es, name = className := by
  obtain ⟨inside, hcloses, hinside⟩ := addField_closes_ok h
  rw [createdTables, hcloses.definitions_eq]
  exact createdTables_of_createsOnly (Catalog.addition_createsOnly hplain inside _ hinside).1

/-- Beside the table of its class, adding a field creates that of the field if it is a relation, and no other. -/
theorem addField_creates {u : Unit} (h : (s.addField className field declared).run.Converses es (.ok u))
    (name : String) : name = className ∨ name ∈ createdTables es ↔
      name = className ∨ declared.type.isRelation = true ∧ name = Schema.joinTable className field := by
  cases hrelation : declared.type.isRelation with
  | true => simp [addRelation_creates hrelation h]
  | false =>
      have hclass := addColumn_creates hrelation h name
      simpa using hclass

theorem mem_tablesOf {stored : Schema} {name : String} : name ∈ tablesOf stored ↔
    name = stored.className ∨ ∃ field ∈ stored.relations, name = Schema.joinTable stored.className field := by
  simp only [tablesOf, Schema.joinTables, List.mem_cons, List.mem_map, eq_comm]

end Store

end Docstore
