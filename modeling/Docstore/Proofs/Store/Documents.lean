import Docstore.Proofs.Json.Members
import Docstore.Proofs.Json.Order
import Docstore.Proofs.Schema.Codec
import Docstore.Proofs.Store.Database
import Docstore.Proofs.Wire.Bytes

/-!
# Schemas in the catalog

The document of a schema, as it is kept in the catalog: what is read back of it has the same fields, and setting or
removing a field in it is setting or removing the field in the schema.
-/

namespace Docstore

/-! ## What is kept -/

namespace Json.Kept

variable {xs ys : Document} {key : String}

theorem object_inv {v : Json} (h : (Json.object xs).Kept v) : ∃ ys, v = .object ys ∧ (Fields.names ys).Nodup ∧
    ∀ key, Option.Rel Kept (Fields.get? key xs) (Fields.get? key ys) := by
  cases h with
  | object hnodup h => exact ⟨_, rfl, hnodup, h⟩

theorem get?_some (h : ∀ key, Option.Rel Kept (Fields.get? key xs) (Fields.get? key ys)) {v : Json}
    (hv : Fields.get? key xs = some v) : ∃ w, Fields.get? key ys = some w ∧ v.Kept w := by
  have hkey := h key
  rw [hv] at hkey
  cases hw : Fields.get? key ys with
  | none =>
      rw [hw] at hkey
      cases hkey
  | some w =>
      rw [hw] at hkey
      cases hkey with
      | some hkept => exact ⟨w, rfl, hkept⟩

theorem get?_none (h : ∀ key, Option.Rel Kept (Fields.get? key xs) (Fields.get? key ys))
    (hnone : Fields.get? key xs = none) : Fields.get? key ys = none := by
  have hkey := h key
  rw [hnone] at hkey
  cases hw : Fields.get? key ys with
  | none => rfl
  | some w =>
      rw [hw] at hkey
      cases hkey

theorem get?_string (h : ∀ key, Option.Rel Kept (Fields.get? key xs) (Fields.get? key ys)) {s : String}
    (hs : Fields.get? key xs = some (.string s)) : Fields.get? key ys = some (.string s) := by
  obtain ⟨w, hw, hkept⟩ := get?_some h hs
  cases hkept
  exact hw

/-- Of the members of an object that have the same key, the first can be what is read back. -/
theorem object_cons {v w : Json} (hv : v.Kept w) (hnodup : (Fields.names ys).Nodup)
    (h : ∀ key, Option.Rel Kept (Fields.get? key xs) (Fields.get? key ys)) :
    ∃ zs, (Fields.names zs).Nodup ∧
      ∀ other, Option.Rel Kept (Fields.get? other ((key, v) :: xs)) (Fields.get? other zs) := by
  refine ⟨(key, w) :: Fields.erase key ys, ?_, fun other => ?_⟩
  · exact List.nodup_cons.mpr ⟨Fields.not_mem_names_erase hnodup, Fields.nodup_erase hnodup⟩
  · by_cases hkey : key = other
    · subst hkey
      rw [Fields.get?_cons_self, Fields.get?_cons_self]
      exact .some hv
    · rw [Fields.get?_cons_of_ne hkey, Fields.get?_cons_of_ne hkey, Fields.get?_erase_of_ne (Ne.symm hkey)]
      exact h other

/-- What is read back of an object can be the object itself, if that has each of its keys once. -/
theorem object_self (hnodup : (Fields.names xs).Nodup) (h : ∀ e ∈ xs, e.2.Kept e.2) :
    (Json.object xs).Kept (.object xs) := by
  refine .object hnodup fun key => ?_
  cases hv : Fields.get? key xs with
  | none => exact .none
  | some v => exact .some (h _ (Fields.mem_of_get?_eq_some hv))

theorem object_pair {first second : String} {v w : Json} (hne : first ≠ second) (hv : v.Kept v) (hw : w.Kept w) :
    (Json.object [(first, v), (second, w)]).Kept (.object [(first, v), (second, w)]) :=
  .object_self (by simpa [Fields.names] using hne) (List.forall_mem_cons.mpr ⟨hv, List.forall_mem_singleton.mpr hw⟩)

mutual

/-- Something is read back of every document. -/
theorem exists_kept : ∀ v : Json, ∃ w, v.Kept w
  | .null => ⟨_, .null⟩
  | .bool b => ⟨_, .bool b⟩
  | .number _ => ⟨_, .number rfl⟩
  | .string s => ⟨_, .string s⟩
  | .array xs =>
      have ⟨_, h⟩ := exists_kept_items xs
      ⟨_, .array h⟩
  | .object xs =>
      have ⟨_, hnodup, h⟩ := exists_kept_members xs
      ⟨_, .object hnodup h⟩

theorem exists_kept_items : ∀ xs : List Json, ∃ ys, List.Forall₂ Kept xs ys
  | [] => ⟨[], .nil⟩
  | v :: xs =>
      have ⟨_, hv⟩ := exists_kept v
      have ⟨_, hxs⟩ := exists_kept_items xs
      ⟨_, .cons hv hxs⟩

theorem exists_kept_members : ∀ xs : Document, ∃ ys : Document, (Fields.names ys).Nodup ∧
    ∀ key, Option.Rel Kept (Fields.get? key xs) (Fields.get? key ys)
  | [] => ⟨[], .nil, fun _ => .none⟩
  | (_, v) :: xs =>
      have ⟨_, hv⟩ := exists_kept v
      have ⟨_, hnodup, hxs⟩ := exists_kept_members xs
      object_cons hv hnodup hxs

end

end Json.Kept

/-- A row that holds the text of a document shows it. -/
theorem Wire.Row.shows_of_parse (name : String) {text : String} {doc : Json} (hparse : Json.parse? text = some doc)
    (hkept : doc.Kept doc) : Wire.Row.Shows ⟨[⟨name, .jsonb⟩], [some (1 :: Wire.ofText text)]⟩ doc := by
  have hjson : Wire.json? .jsonb (1 :: Wire.ofText text) = some doc := by
    rw [Wire.json?, Wire.text?_ofText]
    exact hparse
  have hread : Wire.Row.json? ⟨[⟨name, .jsonb⟩], [some (1 :: Wire.ofText text)]⟩ 0 = .ok (some doc) := by
    simp [Wire.Row.json?, Wire.Row.read?, Wire.Row.entries, Wire.DataType.isJson, hjson]
  refine ⟨doc, ?_, hkept⟩
  rw [Wire.Row.json, Wire.Row.read, ← Wire.Row.json?, hread]
  rfl

/-! ## Fields -/

open Json (Kept)

namespace FieldType

theorem ofContents?_eq (fs : Document) : ofContents? fs =
    match Fields.get? "contents" fs with
    | none => some array
    | some v => if v.isNull then some array else (ofJson? true v).map arrayOf := by
  induction fs with
  | nil => rfl
  | cons e rest ih =>
      obtain ⟨key, v⟩ := e
      rw [ofContents?, Fields.get?]
      split
      · rfl
      · exact ih

/-- The type is read from what is kept of it, among further options. -/
theorem ofJson?_kept (inner : Bool) (t : FieldType) {options ys : Document}
    (hoptions : Fields.get? "contents" options = none)
    (h : ∀ key, Option.Rel Kept (Fields.get? key (t.toFields ++ options)) (Fields.get? key ys)) :
    ofJson? inner (.object ys) = some t := by
  induction t generalizing inner options ys with
  | array =>
      rw [ofJson?, Kept.get?_string h (toFields_type _ _), Option.bind_some, tagName?_name]
      have hcontents : Fields.get? "contents" ys = none := Kept.get?_none h hoptions
      show ofContents? ys = some array
      rw [ofContents?_eq, hcontents]
  | arrayOf contents ih =>
      rw [ofJson?, Kept.get?_string h (toFields_type _ _), Option.bind_some, tagName?_name]
      have hcontents : Fields.get? "contents" ((arrayOf contents).toFields ++ options) =
          some (.object contents.toFields) := rfl
      obtain ⟨w, hw, hkept⟩ := Kept.get?_some h hcontents
      obtain ⟨zs, rfl, -, hzs⟩ := hkept.object_inv
      have hread : ofJson? true (.object zs) = some contents := by
        have hnone : Fields.get? "contents" ([] : Document) = none := rfl
        refine ih true hnone ?_
        rwa [List.append_nil]
      show ofContents? ys = some (arrayOf contents)
      rw [ofContents?_eq, hw]
      simp [Json.isNull, hread]
  | pointer target | relation target =>
      rw [ofJson?, Kept.get?_string h (toFields_type _ _), Option.bind_some, tagName?_name]
      have htarget : Fields.get? "targetClass" ys = some (.string target) := Kept.get?_string h rfl
      simp [htarget, name, targeted]
  | _ =>
      rw [ofJson?, Kept.get?_string h (toFields_type _ _), Option.bind_some, tagName?_name]
      rfl

theorem toFields_kept (t : FieldType) : (Json.object t.toFields).Kept (.object t.toFields) := by
  induction t with
  | arrayOf contents ih => exact .object_pair (by decide) (.string _) ih
  | pointer target | relation target => exact .object_pair (by decide) (.string _) (.string _)
  | _ => exact .object_self (List.nodup_singleton _) (List.forall_mem_singleton.mpr (.string _))

end FieldType

namespace Field

theorem ofJson?_kept {f : Field} {v : Json} (h : f.toJson.Kept v) :
    ∃ f', ofJson? v = some f' ∧ f'.type = f.type := by
  obtain ⟨type, required, defaultValue⟩ := f
  obtain ⟨ys, rfl, -, hys⟩ := h.object_inv
  have htype : FieldType.ofJson? true (.object ys) = some type := by
    rw [toFields] at hys
    simp only [List.append_assoc] at hys
    refine FieldType.ofJson?_kept true type ?_ hys
    rcases required with _ | b <;> rcases defaultValue with _ | v <;> rfl
  have hrequired : flag? (Fields.get? "required" ys) = some required := by
    have hoption : Fields.get? "required" (toFields ⟨type, required, defaultValue⟩) = required.map Json.bool := by
      rw [toFields, List.append_assoc, toFields_option (by decide)]
      rcases required with _ | b <;> rcases defaultValue with _ | v <;> rfl
    cases required with
    | none =>
        rw [Kept.get?_none hys hoption]
        rfl
    | some b =>
        obtain ⟨w, hw, hkept⟩ := Kept.get?_some hys hoption
        cases hkept
        rw [hw]
        rfl
  refine ⟨⟨type, required, given? (Fields.get? "defaultValue" ys)⟩, ?_, rfl⟩
  rw [ofJson?, hrequired, htype]

end Field

/-! ## Schemas -/

theorem exists_readFields {α : Type} {read : Json → Option α} {ys : Document}
    (h : ∀ e ∈ ys, ∃ a, read e.2 = some a) :
    ∃ fs, readFields read ys = some fs ∧ Fields.names fs = Fields.names ys ∧
      ∀ key, Fields.get? key fs = (Fields.get? key ys).bind read := by
  induction ys with
  | nil => exact ⟨[], rfl, rfl, fun _ => rfl⟩
  | cons e ys ih =>
      obtain ⟨name, v⟩ := e
      obtain ⟨a, ha⟩ := h (name, v) (.head _)
      obtain ⟨fs, hfs, hnames, hlookup⟩ := ih fun e he => h e (.tail _ he)
      refine ⟨(name, a) :: fs, ?_, congrArg (name :: ·) hnames, fun key => ?_⟩
      · rw [readFields] at hfs ⊢
        simp only [List.mapM_cons, hfs]
        have ha' : read v = some a := ha
        simp [ha']
      · rw [Fields.get?, Fields.get?]
        split
        · exact ha.symm
        · exact hlookup key

theorem readFields_kept {α : Type} (read : Json → Option α) {xs ys : Document} (hnodup : (Fields.names ys).Nodup)
    (h : ∀ key, Option.Rel Kept (Fields.get? key xs) (Fields.get? key ys))
    (hread : ∀ key v w, Fields.get? key xs = some v → v.Kept w → ∃ a, read w = some a) :
    ∃ fs, readFields read ys = some fs ∧ Fields.names fs = Fields.names ys ∧
      ∀ key, Fields.get? key fs = (Fields.get? key ys).bind read := by
  refine exists_readFields fun e he => ?_
  have hvalue : Fields.get? e.1 ys = some e.2 := (Fields.get?_eq_some_iff hnodup _ _).mpr he
  cases hv : Fields.get? e.1 xs with
  | none => cases (Kept.get?_none h hv).symm.trans hvalue
  | some v =>
      obtain ⟨w, hw, hkept⟩ := Kept.get?_some h hv
      cases hw.symm.trans hvalue
      exact hread e.1 v _ hv hkept

namespace Schema

/-- What is kept of a schema has its class and its fields with their types, each of them once. -/
theorem ofJson?_kept {s : Schema} {v : Json} (h : s.toJson.Kept v) : ∃ s', ofJson? v = some s' ∧
    s'.className = s.className ∧ (Fields.names s'.fields).Nodup ∧ ∀ name, s'.fieldType? name = s.fieldType? name := by
  obtain ⟨ys, rfl, -, hys⟩ := h.object_inv
  have hname : (Fields.get? "className" ys).bind Json.text? = some s.className := by
    have hclass : Fields.get? "className" ys = some (.string s.className) := Kept.get?_string hys rfl
    rw [hclass]
    rfl
  obtain ⟨w, hw, hkept⟩ := Kept.get?_some hys
    (show Fields.get? "fields" _ = some (.object (s.fields.map fun e => (e.1, e.2.toJson))) from rfl)
  obtain ⟨zs, rfl, hnodup, hzs⟩ := hkept.object_inv
  have hlookups (key : String) : Fields.get? key (s.fields.map fun e => (e.1, e.2.toJson)) =
      (s.fields.get? key).map Field.toJson :=
    Fields.get?_map Field.toJson s.fields key
  have hfield : ∀ key v w, Fields.get? key (s.fields.map fun e => (e.1, e.2.toJson)) = some v → v.Kept w →
      ∃ f, Field.ofJson? w = some f := by
    intro key v w hv hvw
    rw [hlookups] at hv
    obtain ⟨f, -, rfl⟩ := Option.map_eq_some_iff.mp hv
    obtain ⟨f', hf', -⟩ := Field.ofJson?_kept hvw
    exact ⟨f', hf'⟩
  obtain ⟨fs, hfs, hnames, hlookup⟩ := readFields_kept _ hnodup hzs hfield
  have hindexes : ∃ is, partOf? object? (Fields.get? "indexes" ys) = some is := by
    cases hs : Fields.get? "indexes" s.toFields with
    | none => exact ⟨[], by rw [Kept.get?_none hys hs]; rfl⟩
    | some v =>
        have hv : v = .object (s.indexes.map fun e => (e.1, .object e.2)) := by
          obtain ⟨className, fields, permissions, indexes⟩ := s
          rcases permissions with _ | p <;> rcases indexes with _ | ⟨e, rest⟩ <;> cases hs <;> rfl
        obtain ⟨w, hw, hkept⟩ := Kept.get?_some hys hs
        rw [hv] at hkept
        obtain ⟨us, rfl, hnodup', hus⟩ := hkept.object_inv
        obtain ⟨is, his, -⟩ := readFields_kept object? hnodup' hus fun key v w hv hvw => by
          rw [Fields.get?_map_entries fun _ => Json.object] at hv
          obtain ⟨keys, -, rfl⟩ := Option.map_eq_some_iff.mp hv
          obtain ⟨us, rfl, -⟩ := hvw.object_inv
          exact ⟨us, rfl⟩
        exact ⟨is, by rw [hw]; exact his⟩
  obtain ⟨is, his⟩ := hindexes
  refine ⟨⟨s.className, fs, Field.given? (Fields.get? "classLevelPermissions" ys), is⟩, ?_, rfl, hnames ▸ hnodup,
    fun name => ?_⟩
  · have hfs' : partOf? Field.ofJson? (Fields.get? "fields" ys) = some fs := by
      rw [hw]
      exact hfs
    rw [ofJson?, ofParts?_eq, hname, hfs', his]
    rfl
  · rw [fieldType?, fieldType?, hlookup]
    cases hf : s.fields.get? name with
    | none =>
        rw [Kept.get?_none hzs (by rw [hlookups, hf]; rfl)]
        rfl
    | some f =>
        obtain ⟨w, hw, hkept⟩ := Kept.get?_some hzs (v := f.toJson) (by rw [hlookups, hf]; rfl)
        obtain ⟨f', hf', htype⟩ := Field.ofJson?_kept hkept
        rw [hw]
        simp [hf', htype]

/-- The document of a schema itself has its class and its fields, whatever is null in it. -/
theorem exists_ofJson?_toJson (s : Schema) :
    ∃ s', ofJson? s.toJson = some s' ∧ s'.className = s.className ∧ ∀ name, s'.fieldType? name = s.fieldType? name := by
  have hread : ∀ e ∈ s.fields.map fun e => (e.1, e.2.toJson), ∃ f, Field.ofJson? e.2 = some f := by
    intro e he
    obtain ⟨e', -, rfl⟩ := List.mem_map.mp he
    exact ⟨_, Field.ofJson?_toJson e'.2⟩
  obtain ⟨fs, hfs, -, hlookup⟩ := exists_readFields hread
  have hname : (Fields.get? "className" s.toFields).bind Json.text? = some s.className := rfl
  have hfields : partOf? Field.ofJson? (Fields.get? "fields" s.toFields) = some fs := hfs
  refine ⟨⟨s.className, fs, Field.given? s.permissions, s.indexes⟩, ?_, rfl, fun name => ?_⟩
  · rw [toJson, ofJson?, ofParts?_eq, hname, hfields, toFields_permissions, partOf?_indexes]
    rfl
  · rw [fieldType?, fieldType?, hlookup, Fields.get?_map_entries fun _ => Field.toJson]
    cases s.fields.get? name with
    | none => rfl
    | some f => simp [Field.ofJson?_toJson]

/-- What is read back of the document of a schema can be the document itself, if its fields have no options. -/
theorem toJson_kept {s : Schema} (types : Fields FieldType) (hfields : s.fields = types.map fun e => (e.1, .ofType e.2))
    (hnames : (Fields.names types).Nodup) (hpermissions : s.permissions = none) (hindexes : s.indexes = []) :
    s.toJson.Kept s.toJson := by
  obtain ⟨className, fields, permissions, indexes⟩ := s
  cases hfields
  cases hpermissions
  cases hindexes
  have hdocument : toJson ⟨className, types.map fun e => (e.1, .ofType e.2), none, []⟩ = .object
      [("className", .string className), ("fields", .object (types.map fun e => (e.1, .object e.2.toFields)))] := by
    simp [toJson, toFields, Field.toJson, Field.toFields, Field.ofType, Function.comp_def]
  rw [hdocument]
  refine .object_pair (by decide) (.string _) (.object_self ?_ fun e he => ?_)
  · simpa [Fields.names, Function.comp_def] using hnames
  · obtain ⟨e', -, rfl⟩ := List.mem_map.mp he
    exact e'.2.toFields_kept

/-! ## Changes of documents -/

theorem entryOf?_toJson (s : Schema) (name : String) :
    Sql.Database.entryOf? s.toJson name = (s.fields.get? name).map Field.toJson :=
  Fields.get?_map Field.toJson s.fields name

theorem setAt_field (s : Schema) (name : String) (f : Field) :
    Json.setAt f.toJson (Catalog.fieldPath name) s.toJson =
      ({ s with fields := s.fields.insert name f } : Schema).toJson := by
  have hfields : Json.setAt f.toJson [name] (.object (s.fields.map fun e => (e.1, e.2.toJson))) =
      .object ((s.fields.insert name f).map fun e => (e.1, e.2.toJson)) :=
    congrArg Json.object (Fields.insert_map Field.toJson s.fields name f)
  show Json.object (Fields.insert "fields" (Json.setAt f.toJson [name] _) s.toFields) = _
  rw [hfields]
  rfl

theorem removeFields_toJson (s : Schema) (names : List String) : Sql.Database.removeFields names s.toJson =
    ({ s with fields := s.fields.filter fun e => e.1 ∉ names } : Schema).toJson := by
  have hfields : Json.without names (.object (s.fields.map fun e => (e.1, e.2.toJson))) =
      .object ((s.fields.filter fun e => e.1 ∉ names).map fun e => (e.1, e.2.toJson)) := by
    rw [Json.without, List.filter_map]
    rfl
  show Json.object (Fields.insert "fields" (Json.without names _) s.toFields) = _
  rw [hfields]
  rfl

end Schema

end Docstore
