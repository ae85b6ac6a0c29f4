import Docstore.Schema.Codec

/-!
# Schemas that are read back

A schema, a field and a type are what their documents declare. Options that are null are the only thing that a
document cannot say, and no document declares them (`isReadable_of_ofJson?`).
-/

namespace Docstore

/-! ## Types -/

namespace FieldType

theorem tagName?_name (inner : Bool) (t : FieldType) : tagName? inner (.string t.name) = some t.name := by
  cases t <;> rfl

theorem toFields_type (t : FieldType) (options : Document) :
    Fields.get? "type" (t.toFields ++ options) = some (.string t.name) := by
  cases t <;> rfl

theorem ofContents?_of_absent {options : Document} (h : ∀ e ∈ options, e.1 ≠ "contents") :
    ofContents? options = some array := by
  induction options with
  | nil => rfl
  | cons e rest ih =>
      obtain ⟨key, v⟩ := e
      rw [ofContents?, if_neg (h _ (.head _))]
      exact ih fun e he => h e (.tail _ he)

/-- A type is read back among further options, as long as those say nothing about the contents of lists. -/
theorem ofJson?_toFields (inner : Bool) (t : FieldType) {options : Document}
    (h : ∀ e ∈ options, e.1 ≠ "contents") : ofJson? inner (.object (t.toFields ++ options)) = some t := by
  induction t generalizing inner options with
  | array =>
      rw [ofJson?, toFields_type, Option.bind_some, tagName?_name]
      exact (ofContents?_of_absent h : ofContents? options = some array)
  | arrayOf contents ih =>
      rw [ofJson?, toFields_type, Option.bind_some, tagName?_name]
      have hcontents : ofJson? true (.object contents.toFields) = some contents := by
        simpa using ih true (List.forall_mem_nil _)
      simp [name, toFields, ofContents?, Json.isNull, hcontents]
  | pointer target | relation target => cases inner <;> rfl
  | _ => cases inner <;> rfl

end FieldType

/-! ## Fields -/

namespace Field

/-- Nothing is declared to be null by default. -/
def IsReadable (f : Field) : Prop := f.defaultValue ≠ some .null

theorem isReadable_ofType (type : FieldType) : (Field.ofType type).IsReadable := nofun

theorem given?_ne_null (v : Option Json) : given? v ≠ some .null := by
  rcases v with _ | (_ | _ | _ | _ | _ | _) <;> nofun

theorem given?_eq_self {v : Option Json} (h : v ≠ some .null) : given? v = v := by
  rcases v with _ | (_ | _ | _ | _ | _ | _)
  · rfl
  · exact absurd rfl h
  all_goals rfl

/-- The keys of a type's document are not those of a field's options. -/
theorem toFields_option {key : String} (hkey : key ≠ "type" ∧ key ≠ "contents" ∧ key ≠ "targetClass")
    (type : FieldType) (options : Document) :
    Fields.get? key (type.toFields ++ options) = Fields.get? key options := by
  obtain ⟨htype, hcontents, htarget⟩ := hkey
  cases type <;>
    simp [FieldType.toFields, Fields.get?, Ne.symm htype, Ne.symm hcontents, Ne.symm htarget]

/-- A field is read back without a default that is null. -/
theorem ofJson?_toJson (f : Field) : ofJson? f.toJson = some { f with defaultValue := given? f.defaultValue } := by
  obtain ⟨type, required, defaultValue⟩ := f
  have hrequired : flag? (Fields.get? "required" (toFields ⟨type, required, defaultValue⟩)) = some required := by
    rw [toFields, List.append_assoc, toFields_option (by decide)]
    rcases required with _ | b <;> rcases defaultValue with _ | v <;> rfl
  have hdefault : Fields.get? "defaultValue" (toFields ⟨type, required, defaultValue⟩) = defaultValue := by
    rw [toFields, List.append_assoc, toFields_option (by decide)]
    rcases required with _ | b <;> rcases defaultValue with _ | v <;> rfl
  have htype : FieldType.ofJson? true (.object (toFields ⟨type, required, defaultValue⟩)) = some type := by
    rw [toFields, List.append_assoc]
    apply FieldType.ofJson?_toFields
    intro e he
    rcases required with _ | b <;> rcases defaultValue with _ | v <;> simp at he <;> grind
  rw [toJson, ofJson?, hrequired, htype, hdefault]

theorem toJson_injective : Function.Injective toJson := by
  intro f g h
  have hread : some { f with defaultValue := given? f.defaultValue } =
      some { g with defaultValue := given? g.defaultValue } := by
    rw [← ofJson?_toJson, ← ofJson?_toJson, h]
  obtain ⟨type, required, v⟩ := f
  obtain ⟨type', required', w⟩ := g
  cases congrArg Field.type (Option.some.inj hread)
  cases congrArg Field.required (Option.some.inj hread)
  have hdefault := List.append_cancel_left (Json.object.inj h)
  cases v <;> cases w <;> cases hdefault <;> rfl

theorem ofJson?_toJson_iff {f : Field} : ofJson? f.toJson = some f ↔ f.IsReadable := by
  rw [ofJson?_toJson, Option.some_inj]
  constructor
  · intro h hnull
    have hdefault : given? f.defaultValue = f.defaultValue := congrArg Field.defaultValue h
    exact given?_ne_null _ (hdefault.trans hnull)
  · intro h
    rw [given?_eq_self h]

theorem isReadable_of_ofJson? {v : Json} {f : Field} (h : ofJson? v = some f) : f.IsReadable := by
  cases v with
  | object fields =>
      rw [ofJson?] at h
      split at h
      · cases h
        exact given?_ne_null _
      · cases h
  | _ => cases h

end Field

/-! ## Schemas -/

theorem readFields_map {α : Type} {read : Json → Option α} {write : α → Json} {fs : Fields α}
    (h : ∀ e ∈ fs, read (write e.2) = some e.2) :
    readFields read (fs.map fun (name, a) => (name, write a)) = some fs := by
  induction fs with
  | nil => rfl
  | cons e rest ih =>
      obtain ⟨name, a⟩ := e
      have ha : read (write a) = some a := h _ (.head _)
      have hrest := ih fun e he => h e (.tail _ he)
      rw [readFields] at hrest ⊢
      simp only [List.map_cons, List.mapM_cons, hrest, ha]
      rfl

theorem read_of_mem_readFields {α : Type} {read : Json → Option α} {fields : Document} {fs : Fields α}
    (h : readFields read fields = some fs) {e : String × α} (he : e ∈ fs) : ∃ v, read v = some e.2 := by
  induction fields generalizing fs with
  | nil =>
      cases h
      cases he
  | cons field rest ih =>
      rw [readFields, List.mapM_cons] at h
      obtain ⟨e', he', h⟩ := Option.bind_eq_some_iff.mp h
      obtain ⟨es, hes, h⟩ := Option.bind_eq_some_iff.mp h
      cases h
      obtain ⟨a, ha, rfl⟩ := Option.map_eq_some_iff.mp he'
      rcases List.mem_cons.mp he with rfl | he
      · exact ⟨_, ha⟩
      · exact ih hes he

namespace Schema

/-- No option is null. -/
structure IsReadable (s : Schema) : Prop where
  fields : ∀ e ∈ s.fields, e.2.IsReadable
  permissions : s.permissions ≠ some .null

theorem readFields_toJson {s : Schema} (h : s.IsReadable) :
    readFields Field.ofJson? (s.fields.map fun (name, f) => (name, f.toJson)) = some s.fields :=
  readFields_map fun e he => Field.ofJson?_toJson_iff.mpr (h.fields e he)

theorem readFields_object (indexes : Fields Document) :
    readFields object? (indexes.map fun (name, keys) => (name, .object keys)) = some indexes :=
  readFields_map fun _ _ => rfl

theorem toFields_permissions (s : Schema) : Fields.get? "classLevelPermissions" s.toFields = s.permissions := by
  obtain ⟨className, fields, permissions, indexes⟩ := s
  rcases permissions with _ | v <;> rcases indexes with _ | ⟨e, rest⟩ <;> rfl

/-- The values under names that a part of a document gives, none where it is missing. -/
def partOf? {α : Type} (read : Json → Option α) : Option Json → Option (Fields α)
  | none => some []
  | some v => (object? v).bind (readFields read)

theorem ofParts?_eq (className fields permissions indexes : Option Json) :
    ofParts? className fields permissions indexes = (className.bind Json.text?).bind fun name =>
      (partOf? Field.ofJson? fields).bind fun fs =>
        (partOf? object? indexes).bind fun is => some ⟨name, fs, Field.given? permissions, is⟩ := by
  cases fields <;> cases indexes <;> rfl

/-- Having no indexes is left out of the document, and is what is read where they are left out. -/
theorem partOf?_indexes (s : Schema) : partOf? object? (Fields.get? "indexes" s.toFields) = some s.indexes := by
  obtain ⟨className, fields, permissions, indexes⟩ := s
  rcases permissions with _ | v <;> rcases indexes with _ | ⟨e, rest⟩
  · rfl
  · exact readFields_object (e :: rest)
  · rfl
  · exact readFields_object (e :: rest)

theorem ofJson?_toJson {s : Schema} (h : s.IsReadable) : ofJson? s.toJson = some s := by
  have hname : (Fields.get? "className" s.toFields).bind Json.text? = some s.className := rfl
  have hfields : partOf? Field.ofJson? (Fields.get? "fields" s.toFields) = some s.fields := readFields_toJson h
  rw [toJson, ofJson?, ofParts?_eq, hname, hfields, toFields_permissions, partOf?_indexes,
    Field.given?_eq_self h.permissions]
  rfl

theorem isReadable_of_ofParts? {className fields permissions indexes : Option Json} {s : Schema}
    (h : ofParts? className fields permissions indexes = some s) : s.IsReadable := by
  rw [ofParts?_eq] at h
  obtain ⟨name, -, h⟩ := Option.bind_eq_some_iff.mp h
  obtain ⟨fs, hfs, h⟩ := Option.bind_eq_some_iff.mp h
  obtain ⟨is, -, h⟩ := Option.bind_eq_some_iff.mp h
  cases h
  refine ⟨fun e he => ?_, Field.given?_ne_null _⟩
  cases fields with
  | none =>
      cases hfs
      cases he
  | some v =>
      obtain ⟨doc, -, hread⟩ := Option.bind_eq_some_iff.mp hfs
      obtain ⟨w, hw⟩ := read_of_mem_readFields hread he
      exact Field.isReadable_of_ofJson? hw

theorem isReadable_of_ofJson? {v : Json} {s : Schema} (h : ofJson? v = some s) : s.IsReadable := by
  cases v with
  | object doc => exact isReadable_of_ofParts? h
  | array parts =>
      rw [ofJson?] at h
      split at h
      · exact isReadable_of_ofParts? h
      · cases h
  | _ => cases h

theorem mem_declare {name : String} {type : FieldType} {fields : Fields Field} {e : String × Field}
    (h : e ∈ declare name type fields) : e ∈ fields ∨ e = (name, .ofType type) := by
  induction fields with
  | nil => exact .inr (List.mem_singleton.mp h)
  | cons field rest ih =>
      obtain ⟨key, f⟩ := field
      rw [declare, Fields.insert] at h
      split at h
      · rcases List.mem_cons.mp h with rfl | h
        · exact .inr rfl
        · exact .inl (.tail _ h)
      · rcases List.mem_cons.mp h with rfl | h
        · exact .inl (.head _)
        · exact (ih h).imp (.tail _) id

theorem readable_declare {name : String} {type : FieldType} {fields : Fields Field}
    (h : ∀ e ∈ fields, e.2.IsReadable) : ∀ e ∈ declare name type fields, e.2.IsReadable := by
  intro e he
  rcases mem_declare he with he | rfl
  · exact h e he
  · exact Field.isReadable_ofType type

theorem IsReadable.toStorage {s : Schema} (h : s.IsReadable) : s.toStorage.IsReadable := by
  refine ⟨?_, h.permissions⟩
  rw [Schema.toStorage]
  dsimp only
  split
  · exact readable_declare (readable_declare (readable_declare (readable_declare h.fields)))
  · exact readable_declare (readable_declare h.fields)

/--
What a document declares is read back from its own document: schemas with their fields and indexes in order, also in
storage form, fields and types. A field can be read back exactly if it is not null by default.
-/
theorem codec_lossless :
    (∀ (v : Json) (s : Schema), ofJson? v = some s →
      ofJson? s.toJson = some s ∧ ofJson? s.toStorage.toJson = some s.toStorage) ∧
    (∀ (v : Json) (f : Field), Field.ofJson? v = some f → Field.ofJson? f.toJson = some f) ∧
    (∀ f : Field, Field.ofJson? f.toJson = some f ↔ f.defaultValue ≠ some .null) ∧
    ∀ (inner : Bool) (t : FieldType), FieldType.ofJson? inner (.object t.toFields) = some t := by
  refine ⟨fun v s h => ?_, fun v f h => ?_, fun f => Field.ofJson?_toJson_iff, fun inner t => ?_⟩
  · have hreadable : s.IsReadable := isReadable_of_ofJson? h
    exact ⟨ofJson?_toJson hreadable, ofJson?_toJson hreadable.toStorage⟩
  · exact Field.ofJson?_toJson_iff.mpr (Field.isReadable_of_ofJson? h)
  · simpa using FieldType.ofJson?_toFields inner t (List.forall_mem_nil _)

/-- A document with nested lists, options, permissions, indexes and keys that mean nothing. -/
def playerDocument : Json :=
  .object [("note", .null), ("className", .string "Player"),
    ("fields", .object [
      ("team", .object [("required", .bool true), ("type", .string "Pointer"), ("targetClass", .string "Team")]),
      ("scores", .object [("type", .string "Array"), ("defaultValue", .array []),
        ("contents", .object [("type", .string "Array"), ("contents", .object [("type", .string "Number")])])])]),
    ("classLevelPermissions", .object [("find", .object [])]),
    ("indexes", .object [("team_1", .object [("team", .int 1)]), ("_id_", .object [("_id", .int 1)])])]

def playerSchema : Schema :=
  ⟨"Player",
    [("team", ⟨.pointer "Team", some true, none⟩), ("scores", ⟨.arrayOf (.arrayOf .number), none, some (.array [])⟩)],
    some (.object [("find", .object [])]), [("team_1", [("team", .int 1)]), ("_id_", [("_id", .int 1)])]⟩

theorem codec_lossless_player : ofJson? playerDocument = some playerSchema ∧
    ofJson? playerSchema.toJson = some playerSchema ∧
    ofJson? playerSchema.toStorage.toJson = some playerSchema.toStorage ∧
    Field.ofJson? (Field.toJson ⟨.arrayOf .string, none, some (.bool false)⟩) =
      some ⟨.arrayOf .string, none, some (.bool false)⟩ := by
  have h : ofJson? playerDocument = some playerSchema := rfl
  obtain ⟨hschemas, hfields, -, -⟩ := codec_lossless
  obtain ⟨hread, hstored⟩ := hschemas playerDocument playerSchema h
  exact ⟨h, hread, hstored, hfields (.object [("defaultValue", .bool false), ("type", .string "Array"),
    ("contents", .object [("type", .string "String")])]) _ rfl⟩

end Schema

end Docstore
