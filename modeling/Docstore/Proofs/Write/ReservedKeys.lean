import Docstore.Proofs.Write.Folding

/-!
# Reserved keys

An insert is refused for its keys exactly where some key of the expanded object, at whatever depth, holds a dollar sign
or a point. Nothing that comes later makes or hides a key, so the documents that are bound have none (`insert_keys`).
-/

namespace Docstore

/-! ## Keys of values -/

/-- A key of some object in a value, at whatever depth. -/
inductive Json.HasKey (key : String) : Json → Prop
  | here {fields : Document} (h : key ∈ Fields.names fields) : HasKey key (.object fields)
  | field {fields : Document} {e : String × Json} (he : e ∈ fields) (h : HasKey key e.2) : HasKey key (.object fields)
  | item {items : List Json} {v : Json} (hv : v ∈ items) (h : HasKey key v) : HasKey key (.array items)

namespace Json

variable {key : String}

theorem hasKey_object_cons {e : String × Json} {fields : Document} :
    HasKey key (.object (e :: fields)) ↔ key = e.1 ∨ HasKey key e.2 ∨ HasKey key (.object fields) := by
  constructor
  · intro h
    cases h with
    | here h => exact (List.mem_cons.mp h).imp id fun h => .inr (.here h)
    | field he h =>
        rcases List.mem_cons.mp he with rfl | he
        · exact .inr (.inl h)
        · exact .inr (.inr (.field he h))
  · rintro (rfl | h | h)
    · exact .here (.head _)
    · exact .field (.head _) h
    · cases h with
      | here h => exact .here (.tail _ h)
      | field he h => exact .field (.tail _ he) h

theorem hasKey_array_cons {v : Json} {items : List Json} :
    HasKey key (.array (v :: items)) ↔ HasKey key v ∨ HasKey key (.array items) := by
  constructor
  · rintro (_ | _ | ⟨hv, h⟩)
    rcases List.mem_cons.mp hv with rfl | hv
    · exact .inl h
    · exact .inr (.item hv h)
  · rintro (h | _ | _ | ⟨hv, h⟩)
    · exact .item (.head _) h
    · exact .item (.tail _ hv) h

end Json

namespace Write

/-- Keys that the store keeps for operators and paths. -/
def IsReserved (key : String) : Prop := '$' ∈ key.toList ∨ '.' ∈ key.toList

instance : DecidablePred IsReserved := fun _ => inferInstanceAs (Decidable (_ ∨ _))

theorem isReservedKey_iff {key : String} : isReservedKey key = true ↔ IsReserved key := by
  simp [isReservedKey, IsReserved, List.any_eq_true, and_or_left, exists_or]

mutual

theorem hasReservedKey_iff : (v : Json) → (hasReservedKey v = true ↔ ∃ key, v.HasKey key ∧ IsReserved key)
  | .null | .bool _ | .number _ | .string _ => by
      rw [hasReservedKey]
      · refine iff_of_false Bool.false_ne_true ?_
        rintro ⟨key, h, -⟩
        cases h
      all_goals simp
  | .object fields => by rw [hasReservedKey, anyReserved_iff fields]
  | .array items => by rw [hasReservedKey, anyItemReserved_iff items]

theorem anyReserved_iff : (fields : Document) →
    (anyReserved fields = true ↔ ∃ key, (Json.object fields).HasKey key ∧ IsReserved key)
  | [] => by
      rw [anyReserved]
      refine iff_of_false Bool.false_ne_true ?_
      rintro ⟨key, h | h, -⟩
      · cases h
      · contradiction
  | (key, v) :: rest => by
      rw [anyReserved, Bool.or_eq_true, Bool.or_eq_true, isReservedKey_iff, hasReservedKey_iff v, anyReserved_iff rest]
      simp only [Json.hasKey_object_cons, or_and_right, exists_or, exists_eq_left, or_assoc]

theorem anyItemReserved_iff : (items : List Json) →
    (anyItemReserved items = true ↔ ∃ key, (Json.array items).HasKey key ∧ IsReserved key)
  | [] => by
      rw [anyItemReserved]
      refine iff_of_false Bool.false_ne_true ?_
      rintro ⟨key, _ | _ | ⟨hv, -⟩, -⟩
      cases hv
  | v :: rest => by
      rw [anyItemReserved, Bool.or_eq_true, hasReservedKey_iff v, anyItemReserved_iff rest]
      simp only [Json.hasKey_array_cons, or_and_right, exists_or]

end

/-! ## Folded documents -/

/-- A document without reserved keys. -/
def HasPlainKeys (fields : Document) : Prop := ∀ e ∈ fields, ¬ IsReserved e.1 ∧ hasReservedKey e.2 = false

theorem hasPlainKeys_iff {fields : Document} : HasPlainKeys fields ↔ hasReservedKey (.object fields) = false := by
  rw [hasReservedKey, anyReserved_eq, List.any_eq_false]
  simp [HasPlainKeys, ← isReservedKey_iff]

theorem not_isReserved_provider {key provider : String} (h : authDataProvider? key = some provider) :
    ¬ IsReserved provider := by
  obtain ⟨-, -, hchars⟩ := authDataProvider?_eq_some_iff.mp h
  rintro (hmem | hmem)
  · exact absurd (hchars _ hmem) (by decide)
  · exact absurd (hchars _ hmem) (by decide)

namespace HasPlainKeys

variable {fields : Document} {key : String} {v : Json}

theorem nil : HasPlainKeys [] := List.forall_mem_nil _

theorem insert (h : HasPlainKeys fields) (hkey : ¬ IsReserved key) (hv : hasReservedKey v = false) :
    HasPlainKeys (Fields.insert key v fields) := by
  intro e he
  rcases Fields.mem_insert he with rfl | he
  · exact ⟨hkey, hv⟩
  · exact h e he

theorem erase (h : HasPlainKeys fields) : HasPlainKeys (Fields.erase key fields) :=
  fun e he => h e (Fields.erase_sublist.subset he)

theorem get? (h : HasPlainKeys fields) (hv : Fields.get? key fields = some v) : hasReservedKey v = false :=
  (h _ (Fields.mem_of_get?_eq_some hv)).2

theorem storedProviders (h : HasPlainKeys fields) : HasPlainKeys (storedProviders fields) := by
  rw [Write.storedProviders]
  cases hauth : Fields.get? "authData" fields with
  | none => exact .nil
  | some v =>
      cases v with
      | object stored => exact hasPlainKeys_iff.mpr (h.get? hauth)
      | _ => exact .nil

/-- The names that folding makes are `authData` and those of providers. -/
theorem foldEntry (h : HasPlainKeys fields) (e : String × Json) : HasPlainKeys (foldEntry fields e) := by
  obtain ⟨key, w⟩ := e
  cases hprovider : authDataProvider? key with
  | none => simpa only [Write.foldEntry, hprovider] using h
  | some provider =>
      cases hv : Fields.get? key fields with
      | none => simpa only [Write.foldEntry, foldProvider, hprovider, hv] using h
      | some v =>
          have hstored := h.storedProviders.insert (not_isReserved_provider hprovider) (h.get? hv)
          rw [foldEntry_of_provider hprovider hv w]
          exact h.erase.insert (by decide) (hasPlainKeys_iff.mp hstored)

theorem foldAuthData (h : HasPlainKeys fields) : HasPlainKeys (foldAuthData fields) :=
  List.foldlRecOn _ Write.foldEntry h fun _ hout e _ => hout.foldEntry e

end HasPlainKeys

end Write

/-! ## Bound documents -/

namespace Encoding

variable {v w : Json}

theorem eq_of_plain (h : plain v = .json w) : w = v := by
  unfold plain at h
  split at h
  · cases h
  · cases h
  · split at h <;> cases h
  · cases h
  · cases h
  · exact (Value.json.inj h).symm

theorem eq_of_untyped (h : untyped v = .json w) : w = v := by
  unfold untyped at h
  split at h
  · cases h
  · exact eq_of_plain h

theorem eq_of_textUnder {key : String} (h : textUnder key v = .json w) : w = v := by
  unfold textUnder at h
  split at h
  · cases h
  · exact eq_of_untyped h

/-- A document that a column holds is the one that was encoded for it. -/
theorem eq_of_encode {type : FieldType} (h : encode type v = .ok (.json w)) : w = v := by
  unfold encode at h
  split at h
  · cases h
  split at h
  · obtain ⟨t, -, ht⟩ := Result.map_ok h
    cases ht
  · exact eq_of_textUnder (Except.ok.inj h)
  · exact eq_of_textUnder (Except.ok.inj h)
  · split at h <;> cases h
  · exact (Value.json.inj (Except.ok.inj h)).symm
  · exact (Value.json.inj (Except.ok.inj h)).symm
  · exact (Value.json.inj (Except.ok.inj h)).symm
  · exact (Value.json.inj (Except.ok.inj h)).symm
  · split at h
    · cases h
    · exact eq_of_untyped (Except.ok.inj h)
  · exact eq_of_untyped (Except.ok.inj h)
  · exact eq_of_untyped (Except.ok.inj h)
  · obtain ⟨p, -, hp⟩ := Result.map_ok h
    cases hp
  · obtain ⟨ring, -, hring⟩ := Result.map_ok h
    cases hring
  · cases h

end Encoding

namespace Write

theorem Cell.held_of_json_mem {c : Cell} {v : Json} (h : .json v ∈ c.template.values) : c.held = .json v := by
  cases c with
  | value stored cast => simpa [template, held, Sql.value, Sql.words, eq_comm] using h
  | point p => simp [template, Sql.boundPoint, Sql.boundDouble, Sql.value, Sql.words] at h

/-- The documents that an insert binds are values of the document that is written. -/
theorem exists_mem_of_json_mem {schema : Schema} {object : Document} {i : Insert}
    (h : insert schema object = .ok i) {v : Json} (hv : .json v ∈ i.values) :
    ∃ e ∈ foldAuthData (expandDots object), e.2 = v := by
  obtain ⟨cells, rfl, hcells⟩ := insert_holds h
  rw [Insert.values, Insert.written, Sql.Bindings.writeAll_snd, Sql.Bindings.values_append, Sql.Bindings.values_empty,
    List.nil_append] at hv
  obtain ⟨t, ht, hv⟩ := List.mem_flatMap.mp hv
  obtain ⟨c, hc, rfl⟩ := List.mem_map.mp ht
  obtain ⟨e, he, hholds⟩ := exists_holds hcells ((Insert.cells_ofCells_perm cells).mem_iff.mp hc)
  obtain ⟨type, -, hstored⟩ := hholds.held
  rw [Cell.held_of_json_mem hv] at hstored
  exact ⟨e, List.mem_of_mem_filter he, (Encoding.eq_of_encode hstored).symm⟩

end Write

/-! ## Kinds of failures -/

open Result (Avoids)

namespace Geometry

theorem pointAt_avoids (latitude longitude : Double) : Avoids .invalidNestedKey (pointAt latitude longitude) := by
  unfold pointAt validate
  refine .map ?_ _
  split
  · exact .fail rfl
  split
  · exact .fail rfl
  · exact .ok _

theorem point_avoids (v : Json) : Avoids .invalidNestedKey (point v) := by
  unfold point
  split
  · exact pointAt_avoids _ _
  · exact .fail rfl

theorem vertex_avoids (pair : Json) : Avoids .invalidNestedKey (vertex pair) := by
  unfold vertex
  split
  · exact pointAt_avoids _ _
  · exact .fail rfl

theorem closeRing_avoids (ps : List Point) : Avoids .invalidNestedKey (closeRing ps) := by
  unfold closeRing
  split
  · exact .fail rfl
  · exact .ok _

theorem polygon_avoids (v : Json) : Avoids .invalidNestedKey (polygon v) := by
  unfold polygon
  split
  · split
    · exact .fail rfl
    · exact (Avoids.mapM vertex_avoids _).bind closeRing_avoids
  · exact .fail rfl

end Geometry

namespace Encoding

theorem date_avoids (v : Json) : Avoids .invalidNestedKey (date v) := by
  unfold date
  extract_lets read
  have hread (iso : String) : Avoids .invalidNestedKey (read iso) := by
    unfold read
    split
    · exact .ok _
    · exact .fail rfl
  split
  · exact hread _
  · split
    · split
      · exact hread _
      · exact .fail rfl
    · exact .fail rfl
  · exact .fail rfl

theorem encode_avoids (type : FieldType) (v : Json) : Avoids .invalidNestedKey (encode type v) := by
  unfold encode
  split
  · exact .ok _
  split
  · exact (date_avoids v).map _
  · exact .ok _
  · exact .ok _
  · split
    · exact .ok _
    · exact .fail rfl
  · exact .ok _
  · exact .ok _
  · exact .ok _
  · exact .ok _
  · split
    · exact .ok _
    · exact .ok _
  · exact .ok _
  · exact .ok _
  · exact (Geometry.point_avoids v).map _
  · exact (Geometry.polygon_avoids _).map _
  · exact .fail rfl

end Encoding

namespace Write

variable {schema : Schema}

theorem writtenType_avoids (name : String) : Avoids .invalidNestedKey (writtenType schema name) := by
  unfold writtenType
  extract_lets
  split
  · exact .ok _
  · exact .fail rfl

theorem cellOf_avoids (name : String) (v : Json) : Avoids .invalidNestedKey (cellOf schema name v) := by
  unfold cellOf
  split
  · exact .ok _
  refine (writtenType_avoids name).bind fun type => ?_
  split
  · exact .ok _
  split
  · exact (Geometry.point_avoids v).map _
  · exact (Encoding.encode_avoids type v).map _

theorem cellsOf_avoids (object : Document) : Avoids .invalidNestedKey (cellsOf schema object) := by
  induction object with
  | nil => exact .ok []
  | cons e rest ih => exact (cellOf_avoids e.1 e.2).bind fun _ => ih.bind fun _ => .ok _

/-! ## Inserts -/

/--
An insert fails for an invalid nested key exactly if some key of the expanded object, at whatever depth, is reserved;
and no document that it binds has such a key.
-/
theorem insert_keys (schema : Schema) (object : Document) :
    ((∃ e, insert schema object = .error (.error e) ∧ e.is .invalidNestedKey = true) ↔
      ∃ key, (Json.object (expandDots object)).HasKey key ∧ IsReserved key) ∧
    ∀ i, insert schema object = .ok i → ∀ v, .json v ∈ i.values → ∀ key, v.HasKey key → ¬ IsReserved key := by
  rw [← hasReservedKey_iff]
  have hinsert : insert schema object = (validateNestedKeys (.object (expandDots object))).bind fun _ =>
      (cellsOf schema (foldAuthData (expandDots object))).bind fun cells => .ok (.ofCells cells) := rfl
  cases hkeys : hasReservedKey (.object (expandDots object)) with
  | true =>
      rw [hinsert, validateNestedKeys, if_pos hkeys]
      refine ⟨iff_of_true ⟨_, rfl, rfl⟩ rfl, fun i hi => ?_⟩
      cases hi
  | false =>
      refine ⟨iff_of_false ?_ Bool.false_ne_true, fun i hi v hv key hkey hreserved => ?_⟩
      · rintro ⟨e, he, his⟩
        rw [hinsert, validateNestedKeys, hkeys] at he
        have havoids : Avoids .invalidNestedKey ((cellsOf schema (foldAuthData (expandDots object))).bind
            fun cells => .ok (Insert.ofCells cells)) := (cellsOf_avoids _).bind fun _ => .ok _
        exact Bool.false_ne_true ((havoids e he).symm.trans his)
      · obtain ⟨e, he, rfl⟩ := exists_mem_of_json_mem hi hv
        have hplain := ((hasPlainKeys_iff.mpr hkeys).foldAuthData e he).2
        exact Bool.false_ne_true (hplain.symm.trans (hasReservedKey_iff e.2 |>.mpr ⟨key, hkey, hreserved⟩))

/-- Letters that hold a document each. -/
def letters : Schema := ⟨"Letter", [("body", .ofType .object)], none, []⟩

/-- Lists of lists that end in an object. -/
def letterOf (body : Document) : Document := [("body", .object [("parts", .array [.array [.object body]])])]

theorem insert_keys_letters :
    (∃ e, insert letters (letterOf [("a.b", .null)]) = .error (.error e) ∧ e.is .invalidNestedKey = true) ∧
    ∃ i, insert letters (letterOf [("a", .null)]) = .ok i ∧
      ∀ key, (Json.object [("parts", .array [.array [.object [("a", .null)]]])]).HasKey key → ¬ IsReserved key := by
  refine ⟨(insert_keys letters _).1.mpr ⟨"a.b", ?_, by decide⟩, ?_⟩
  · exact .field (.head _) (.field (.head _) (.item (.head _) (.item (.head _) (.here (.head _)))))
  · obtain ⟨i, hi, hvalues⟩ : ∃ i, insert letters (letterOf [("a", .null)]) = .ok i ∧
        i.values = [.json (.object [("parts", .array [.array [.object [("a", .null)]]])])] := ⟨_, rfl, rfl⟩
    exact ⟨i, hi, (insert_keys letters _).2 i hi _ (by rw [hvalues]; exact .head _)⟩

end Write

end Docstore
