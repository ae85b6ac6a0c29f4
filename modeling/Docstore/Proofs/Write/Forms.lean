import Docstore.Proofs.Query.Lookups
import Docstore.Proofs.Schema.Forms
import Docstore.Write.Insert
import Docstore.Write.Update

/-!
# Schemas that callers hold

Inserts and updates, too, look up nothing but the types of fields and the class's name. A caller may therefore hold a
schema in any of its forms: compiled in storage form, it gives the same statements. Main statement:
`forms_interchangeable`.
-/

namespace Docstore

namespace Write

variable {s t : Schema} (h : s.Agrees t)
include h

/-! ## Inserts -/

theorem writtenType_congr (name : String) : writtenType s name = writtenType t name := by
  have huser : s.isUserClass = t.isUserClass := by rw [Schema.isUserClass, Schema.isUserClass, h.className]
  rw [writtenType, writtenType, huser, h.className, h.fieldType?]

theorem cellsOf_congr (object : Document) : cellsOf s object = cellsOf t object := by
  induction object with
  | nil => rfl
  | cons entry rest ih =>
      obtain ⟨name, value⟩ := entry
      rw [cellsOf, cellsOf, cellOf, cellOf, writtenType_congr h, ih]

theorem insert_congr (object : Document) : insert s object = insert t object := by
  simp only [insert, cellsOf_congr h]

/-! ## Updates -/

theorem actionOf_congr (update : Document) (column : String) (value : Json) :
    actionOf s update column value = actionOf t update column value := by
  unfold actionOf
  rw [h.fieldType?]

theorem assignmentsOf_congr (update entries : Document) :
    assignmentsOf s update entries = assignmentsOf t update entries := by
  induction entries with
  | nil => rfl
  | cons entry rest ih =>
      obtain ⟨column, value⟩ := entry
      rw [assignmentsOf, assignmentsOf, actionOf_congr h, ih]

theorem update_congr (changes : Document) : update s changes = update t changes := by
  rw [update, update, assignmentsOf_congr h]

theorem Update.statement_congr (u : Update) (now : Time.Instant) (query : Document) :
    u.statement s now query = u.statement t now query := by
  rw [statement, statement, Query.predicate_congr h, h.className]

end Write

/-! ## Forms -/

namespace Schema

/-- Everything that is compiled against two schemas comes out the same: the SQL, the values and the failures. -/
structure CompilesAlike (s t : Schema) : Prop where
  find : ∀ now query options, Query.find s now query options = Query.find t now query options
  count : ∀ now query, Query.count s now query = Query.count t now query
  distinct : ∀ now field query, Query.distinct s now field query = Query.distinct t now field query
  delete : ∀ now query, Query.delete s now query = Query.delete t now query
  insert : ∀ object ignoreConflict,
    (Write.insert s object).map (fun i => (i, i.statement s.className ignoreConflict)) =
      (Write.insert t object).map (fun i => (i, i.statement t.className ignoreConflict))
  update : ∀ now changes query,
    (Write.update s changes).map (fun u => (u, u.statement s now query)) =
      (Write.update t changes).map (fun u => (u, u.statement t now query))
  aggregate : ∀ stages,
    (Query.Pipeline.compile s stages).map (fun p => (p, p.statement s)) =
      (Query.Pipeline.compile t stages).map (fun p => (p, p.statement t))

theorem Agrees.compilesAlike {s t : Schema} (h : s.Agrees t) : s.CompilesAlike t where
  find := fun now query options => Query.find_congr h now query options
  count := fun now query => Query.count_congr h now query
  distinct := fun now field query => Query.distinct_congr h now query field
  delete := fun now query => Query.delete_congr h now query
  insert := fun object ignoreConflict => by rw [Write.insert_congr h, h.className]
  update := fun now changes query => by simp only [Write.update_congr h, Write.Update.statement_congr h]
  aggregate := fun stages => by
    simp only [Query.Pipeline.compile_congr h, Query.Pipeline.statement_congr h]

/-- The storage form of what a caller may hold: a schema, its storage form or what is seen of that. -/
theorem agrees_toStorage (s : Schema) {held : Schema} (h : held ∈ [s, s.toStorage, s.toStorage.toPublic]) :
    held.toStorage.Agrees s.toStorage := by
  simp only [List.mem_cons, List.not_mem_nil, or_false] at h
  rcases h with rfl | rfl | rfl
  · exact ⟨rfl, fun _ => rfl⟩
  · rw [toStorage_toStorage]
    exact ⟨rfl, fun _ => rfl⟩
  · exact ⟨rfl, fun name => by rw [fieldType?, fieldType?, get?_toStorage_toPublic]⟩

/--
Both forms are forms of themselves, the storage form of what callers see of a stored schema declares what is stored,
and whichever form a caller holds, its storage form compiles everything alike.
-/
theorem forms_interchangeable (s : Schema) (hnodup : (Fields.names s.fields).Nodup) :
    s.toStorage.toStorage = s.toStorage ∧ s.toPublic.toPublic = s.toPublic ∧
      (s.toStorage.toPublic.toStorage.className = s.toStorage.className ∧
        ∀ name, Fields.get? name s.toStorage.toPublic.toStorage.fields = Fields.get? name s.toStorage.fields) ∧
      ∀ held ∈ [s, s.toStorage, s.toStorage.toPublic], held.toStorage.CompilesAlike s.toStorage :=
  ⟨s.toStorage_toStorage, s.toPublic_toPublic hnodup, ⟨rfl, s.get?_toStorage_toPublic⟩,
    fun _ hheld => (s.agrees_toStorage hheld).compilesAlike⟩

/-- Users whose declared fields include hidden ones, of other types than they are stored with. -/
def memberSchema : Schema :=
  ⟨userClass, [("_hashed_password", .ofType .number), ("username", .ofType .string), ("_wperm", .ofType .object)],
    none, []⟩

theorem forms_interchangeable_members : (Fields.names memberSchema.fields).Nodup ∧
    memberSchema.toStorage.toPublic.toStorage.fields.names =
      ["username", "_password_history", "_wperm", "_rperm", "_hashed_password"] ∧
    memberSchema.toStorage.fields.names =
      ["_hashed_password", "username", "_wperm", "_rperm", "_password_history"] ∧
    memberSchema.toStorage.toPublic.toStorage.CompilesAlike memberSchema.toStorage := by
  have hnodup : (Fields.names memberSchema.fields).Nodup := by decide
  obtain ⟨-, -, -, hheld⟩ := forms_interchangeable memberSchema hnodup
  exact ⟨hnodup, by decide, by decide, hheld _ (.tail _ (.tail _ (.head _)))⟩

end Schema

end Docstore
