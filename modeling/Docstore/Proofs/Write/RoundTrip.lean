import Docstore.Proofs.Encoding.Canonical
import Docstore.Proofs.Sql.Items
import Docstore.Proofs.Write.Statements
import Docstore.Store.Row
import Mathlib.Data.List.Forall2
import Mathlib.Data.List.Nodup

/-!
# Objects that are written and read

An object of canonical values is accepted, and a row that holds in each column what was bound for it is read as
the same object, but for the order of fields (`insert_shape_same`). Times of creation and change are read as bare
text, and the relations of the class are shown beside the fields.
-/

namespace Docstore

open Docstore.Encoding (Canonical)
open Docstore.Sql (Bindings Fragment Item Template)

/-! ## What is bound -/

/-- Each written text says, with the values filled in, what its template does. -/
theorem Sql.Bindings.items_writeAll {b b' : Bindings} {ts : List Template} (h : ∀ t ∈ ts, t.Fresh)
    (hfirst : b'.first = b.first) (hstarts : (b.writeAll ts).2.values <+: b'.values) :
    List.Forall₂ (fun f t => ∃ ls, Sql.read (Sql.render f) = some ls ∧ b'.items ls = t.items)
      (b.writeAll ts).1 ts := by
  have hfresh := (List.forall₂_and_left _ _).mpr ⟨h, holds_writeAll ts hfirst hstarts⟩
  refine (hfresh.imp ?_).flip
  rintro t f ⟨ht, next, rfl, hholds⟩
  exact ⟨_, (ht.1 _).read_render, Template.items_number ht.2 hholds⟩

namespace Write

namespace Cell

/-- What a column holds of a cell. -/
def held : Cell → Value
  | value v _ => v
  | point p => .point p

end Cell

/-- What the SQL of a column stands for, its values filled in: a value with a cast, or the point of two numbers. -/
inductive Denotes : List Item → Value → Prop
  | value (v : Value) {cast : String} (h : cast ∈ casts) : Denotes (.value v :: Item.text cast) v
  | point (x y : Double) :
      Denotes (Item.text "POINT(" ++ .value (.number x) :: Item.text ", " ++ .value (.number y) :: Item.text ")")
        (.point ⟨x, y⟩)

theorem items_value (v : Value) (cast : String) :
    Template.items (Cell.value v cast).template = .value v :: Item.text cast := by
  rw [Cell.template, Template.items_append, Template.items_words]
  rfl

theorem items_point (p : Point) :
    Template.items (Cell.point p).template =
      Item.text "POINT(" ++ .value (.number p.x) :: Item.text ", " ++ .value (.number p.y) :: Item.text ")" := by
  simp [Cell.template, Sql.boundPoint, Sql.boundDouble, Template.items_append, Sql.value, Template.items]

/-- The SQL of a cell stands for what the column holds of it, and for nothing else. -/
theorem denotes_iff {c : Cell} (h : c.HasCast) {v : Value} : Denotes (Template.items c.template) v ↔ v = c.held := by
  constructor
  · generalize hitems : Template.items c.template = items
    intro hv
    cases c with
    | value w cast =>
        rw [items_value] at hitems
        cases hv with
        | value v hcast =>
            injection hitems with hv
            injection hv with hv
            exact hv.symm
        | point x y => cases hitems
    | point p =>
        rw [items_point] at hitems
        cases hv with
        | value v hcast => cases hitems
        | point x y =>
            have hxy : p.x = x ∧ p.y = y := by simpa [Item.text] using hitems
            rw [Cell.held, ← hxy.1, ← hxy.2]
  · rintro rfl
    cases c with
    | value w cast =>
        rw [items_value]
        exact .value w h
    | point p =>
        rw [items_point]
        exact .point p.x p.y

namespace Insert

variable {i : Insert} {row : List (String × Value)}

/-- A row has in a column what the column's SQL stands for, its placeholders counted from one on. -/
def IsBound (i : Insert) (row : List (String × Value)) (name : String) (f : Fragment) : Prop :=
  ∃ ls v, Sql.read (Sql.render f) = some ls ∧ Denotes (Bindings.items ⟨1, i.values⟩ ls) v ∧ (name, v) ∈ row

/-- A row that has in each written column what was bound for it, and null in all others. -/
structure IsReturned (i : Insert) (row : List (String × Value)) : Prop where
  names : (row.map Prod.fst).Nodup
  bound : ∀ e ∈ i.columns.zip i.placeholders, i.IsBound row e.1 e.2
  others : ∀ e ∈ row, e.1 ∉ i.columns → e.2 = .null

theorem isBound_iff {name : String} {f : Fragment} {c : Cell} (h : c.HasCast)
    (hf : ∃ ls, Sql.read (Sql.render f) = some ls ∧ Bindings.items ⟨1, i.values⟩ ls = c.template.items) :
    i.IsBound row name f ↔ (name, c.held) ∈ row := by
  obtain ⟨ls, hls, hitems⟩ := hf
  constructor
  · rintro ⟨ls', v, hls', hv, hmem⟩
    rw [hls] at hls'
    cases hls'
    rw [hitems, denotes_iff h] at hv
    rwa [← hv]
  · intro hmem
    refine ⟨ls, c.held, hls, ?_, hmem⟩
    rw [hitems, denotes_iff h]

theorem forall_zip_iff {P : String → Fragment → Prop} {Q : String × Cell → Prop} {cells : Fields Cell}
    {fs : List Fragment} (h : List.Forall₂ (fun c f => P c.1 f ↔ Q c) cells fs) :
    (∀ e ∈ (cells.map Prod.fst).zip fs, P e.1 e.2) ↔ ∀ c ∈ cells, Q c := by
  induction h with
  | nil => simp
  | cons hfc _ ih =>
      rw [List.map_cons, List.zip_cons_cons, List.forall_mem_cons, List.forall_mem_cons, ih, hfc]

/-- The SQL of each column says what the column's cell does. -/
theorem read_placeholders (h : ∀ c ∈ i.cells, c.2.HasCast) :
    List.Forall₂ (fun c f => c.2.HasCast ∧
      ∃ ls, Sql.read (Sql.render f) = some ls ∧ Bindings.items ⟨1, i.values⟩ ls = c.2.template.items)
      i.cells i.placeholders := by
  have hfresh : ∀ t ∈ i.cells.map (fun c => c.2.template), t.Fresh := by
    intro t ht
    obtain ⟨c, hc, rfl⟩ := List.mem_map.mp ht
    exact Cell.template_fresh (h c hc)
  have hwritten := @Bindings.items_writeAll .empty ⟨1, i.values⟩ _ hfresh rfl (List.prefix_refl _)
  rw [List.forall₂_map_right_iff] at hwritten
  exact (List.forall₂_and_left _ _).mpr ⟨h, hwritten.flip⟩

/-- A row that is returned has the cells in its columns. -/
theorem isReturned_iff (h : ∀ c ∈ i.cells, c.2.HasCast) : i.IsReturned row ↔
    (row.map Prod.fst).Nodup ∧ (∀ c ∈ i.cells, (c.1, c.2.held) ∈ row) ∧ ∀ e ∈ row, e.1 ∉ i.columns → e.2 = .null := by
  have hbound : (∀ e ∈ i.columns.zip i.placeholders, i.IsBound row e.1 e.2) ↔
      ∀ c ∈ i.cells, (c.1, c.2.held) ∈ row :=
    forall_zip_iff ((read_placeholders h).imp fun c f hcf => isBound_iff hcf.1 hcf.2)
  constructor
  · rintro ⟨hnames, hcells, hothers⟩
    exact ⟨hnames, hbound.mp hcells, hothers⟩
  · rintro ⟨hnames, hcells, hothers⟩
    exact ⟨hnames, hbound.mpr hcells, hothers⟩

end Insert

/-! ## Documents that are left as they are -/

theorem isReserved_of_hasPoint {key : String} (h : hasPoint key = true) : isReservedKey key = true := by
  rw [hasPoint, List.contains_iff_mem] at h
  rw [isReservedKey, List.any_eq_true]
  exact ⟨'.', h, by decide⟩

theorem expandDots_eq_self {object : Document} (h : ∀ e ∈ object, hasPoint e.1 = false) :
    expandDots object = object := by
  unfold expandDots
  rw [List.filter_eq_self.mpr, List.filter_eq_nil_iff.mpr]
  · rfl
  · intro e he
    simp [h e he]
  · intro e he
    simp [h e he]

theorem foldAuthData_eq_self {object : Document} (h : ∀ e ∈ object, authDataProvider? e.1 = none) :
    foldAuthData object = object := by
  refine List.foldlRecOn (motive := fun out => out = object) object _ rfl fun out hout e he => ?_
  simp only [h e he, hout]

theorem anyReserved_eq (fields : Document) :
    anyReserved fields = fields.any fun e => isReservedKey e.1 || hasReservedKey e.2 := by
  induction fields with
  | nil => simp [anyReserved]
  | cons e rest ih => rw [anyReserved, ih, List.any_cons]

theorem anyItemReserved_eq (items : List Json) : anyItemReserved items = items.any hasReservedKey := by
  induction items with
  | nil => simp [anyItemReserved]
  | cons v rest ih => rw [anyItemReserved, ih, List.any_cons]

theorem hasReservedKey_of_hasExactly {v : Json} {fields : Document} (h : v.HasExactly fields)
    (hfields : anyReserved fields = false) : hasReservedKey v = false := by
  obtain ⟨fields', rfl, hperm⟩ := h
  rw [hasReservedKey, anyReserved_eq, hperm.any_eq, ← anyReserved_eq, hfields]

theorem hasReservedKey_pairs (ring : List (Json.Number × Json.Number)) :
    hasReservedKey (.array (ring.map Geometry.pairJson)) = false := by
  rw [hasReservedKey, anyItemReserved_eq, List.any_eq_false, List.forall_mem_map]
  intro p _
  exact Bool.false_ne_true

/-- The values that are no documents have no keys but those of their types. -/
theorem hasReservedKey_of_canonical {type : FieldType} {v : Json} (h : Canonical type v)
    (hkeys : type.column? = some .jsonb → hasReservedKey v = false) : hasReservedKey v = false := by
  cases type with
  | string =>
      obtain ⟨s, rfl⟩ := h
      rfl
  | boolean =>
      obtain ⟨b, rfl⟩ := h
      rfl
  | number =>
      obtain ⟨n, -, rfl⟩ := h
      rfl
  | date =>
      obtain ⟨iso, -, h⟩ := h
      exact hasReservedKey_of_hasExactly h rfl
  | pointer target =>
      obtain ⟨id, h⟩ := h
      exact hasReservedKey_of_hasExactly h rfl
  | file =>
      obtain ⟨name, h⟩ := h
      exact hasReservedKey_of_hasExactly h rfl
  | geoPoint =>
      obtain ⟨p, -, h⟩ := h
      exact hasReservedKey_of_hasExactly h rfl
  | polygon =>
      obtain ⟨ring, -, h⟩ := h
      refine hasReservedKey_of_hasExactly h ?_
      rw [Encoding.polygonFields, anyReserved, anyReserved, hasReservedKey_pairs]
      simp +decide
  | array => exact hkeys rfl
  | object => exact hkeys rfl
  | bytes => exact hkeys rfl
  | relation target => exact h.elim
  | arrayOf contents =>
      cases contents with
      | string =>
          obtain ⟨items, rfl⟩ := h
          simp [hasReservedKey, anyItemReserved_eq]
      | _ => exact hkeys rfl

end Write

/-! ## Shown values -/

namespace Schema

variable {s : Schema}

/-- What an object shows of a value that was written: of a time of creation or change its bare text. -/
def shown (s : Schema) (name : String) (v : Json) : Json :=
  if (name = "createdAt" ∨ name = "updatedAt") ∧ s.fieldType? name = some .date then (v.get? "iso").getD v else v

/-- The fields of an object as they are shown. -/
def shownFields (s : Schema) (object : Document) : Document := object.map fun e => (e.1, s.shown e.1 e.2)

theorem fieldJson?_eq_decode {name : String} {stored : Value} (hnull : stored.isNull = false)
    (htime : ∀ t, stored = .timestamp t → ¬ (name = "createdAt" ∨ name = "updatedAt")) :
    s.fieldJson? name stored = some (Encoding.decode (s.fieldType? name) stored) := by
  cases stored with
  | null => cases hnull
  | timestamp t =>
      have hname := htime t rfl
      simp only [fieldJson?, Bool.or_eq_true, decide_eq_true_eq, if_neg hname]
  | _ => rfl

/-- A canonical value is encoded for its column, and shown from there. -/
theorem exists_shown {name : String} {type : FieldType} {v : Json} (htype : s.fieldType? name = some type)
    (h : Canonical type v) : ∃ stored, Encoding.encode type v = .ok stored ∧
      ∃ w, s.fieldJson? name stored = some w ∧ Json.Same w (s.shown name v) := by
  by_cases hdate : (name = "createdAt" ∨ name = "updatedAt") ∧ s.fieldType? name = some .date
  · rw [htype, Option.some.injEq] at hdate
    obtain ⟨hname, rfl⟩ := hdate
    obtain ⟨iso, hiso, hexact⟩ := h
    obtain ⟨t, htext, hencodes⟩ := Encoding.encodes_date hiso hexact
    have hget : v.get? "iso" = some (.string iso) := hexact.get? (show ["__type", "iso"].Nodup by decide) "iso"
    have hfield : s.fieldJson? name (.timestamp t) = some (.string iso) := by
      simp only [fieldJson?, Bool.or_eq_true, decide_eq_true_eq, if_pos hname, htext]
    refine ⟨_, hencodes.encode, _, hfield, ?_⟩
    rw [shown, if_pos ⟨hname, htype⟩, hget]
    exact .refl _
  · obtain ⟨stored, hencodes⟩ := Encoding.exists_encodes h
    have htime : ∀ t, stored = .timestamp t → ¬ (name = "createdAt" ∨ name = "updatedAt") := by
      intro t ht hname
      exact hdate ⟨hname, hencodes.isDate t ht ▸ htype⟩
    refine ⟨stored, hencodes.encode, _, fieldJson?_eq_decode hencodes.notNull htime, ?_⟩
    rw [shown, if_neg hdate, htype]
    exact hencodes.same

/-! ## Rows -/

/-- The fields that the columns of a row become. -/
def columnFields (s : Schema) (row : List (String × Value)) : Document :=
  row.filterMap fun e => (s.fieldJson? e.1 e.2).map (e.1, ·)

theorem columnFields_cons {name : String} {v : Value} {w : Json} (h : s.fieldJson? name v = some w)
    (row : List (String × Value)) : s.columnFields ((name, v) :: row) = (name, w) :: s.columnFields row := by
  have hfield : (s.fieldJson? name v).map (name, ·) = some (name, w) := by
    rw [h]
    rfl
  exact List.filterMap_cons_some hfield

theorem mem_columnFields {row : List (String × Value)} {name : String} {w : Json} :
    (name, w) ∈ s.columnFields row ↔ ∃ v, (name, v) ∈ row ∧ s.fieldJson? name v = some w := by
  rw [columnFields, List.mem_filterMap]
  constructor
  · rintro ⟨⟨k, v⟩, hmem, h⟩
    obtain ⟨u, hu, he⟩ := Option.map_eq_some_iff.mp h
    cases he
    exact ⟨v, hmem, hu⟩
  · rintro ⟨v, hmem, h⟩
    exact ⟨(name, v), hmem, by rw [h]; rfl⟩

theorem names_columnFields_sublist (s : Schema) (row : List (String × Value)) :
    ((s.columnFields row).map Prod.fst).Sublist (row.map Prod.fst) := by
  refine Fields.names_filterMap_sublist (fun e e' h => ?_) row
  obtain ⟨w, -, rfl⟩ := Option.map_eq_some_iff.mp h
  rfl

theorem names_relationFields_sublist (s : Schema) :
    (s.relationFields.map Prod.fst).Sublist (s.fields.map Prod.fst) := by
  refine Fields.names_filterMap_sublist (fun e e' h => ?_) s.fields
  dsimp only at h
  split at h
  · cases h
    rfl
  · cases h

theorem fieldType?_of_mem_relationFields (hfields : (s.fields.map Prod.fst).Nodup) {name : String}
    (h : name ∈ s.relationFields.map Prod.fst) : ∃ target, s.fieldType? name = some (.relation target) := by
  obtain ⟨e', he', rfl⟩ := List.mem_map.mp h
  obtain ⟨⟨k, f⟩, hmem, he⟩ := List.mem_filterMap.mp he'
  dsimp only at he
  split at he
  · rename_i target htype
    cases he
    refine ⟨target, ?_⟩
    rw [fieldType?, (Fields.get?_eq_some_iff hfields k f).mpr hmem, Option.map_some, htype]
  · cases he

/-- The object of columns with different names, none of them a relation's. -/
theorem shape_of_nodup (hfields : (s.fields.map Prod.fst).Nodup) {row : List (String × Value)}
    (hrow : (row.map Prod.fst).Nodup)
    (hrelation : ∀ e ∈ s.columnFields row, ∀ target, s.fieldType? e.1 ≠ some (.relation target)) :
    s.shape row = s.columnFields row ++ s.relationFields := by
  have hcolumns : ((s.columnFields row).map Prod.fst).Nodup := (s.names_columnFields_sublist row).nodup hrow
  have hall : ((s.columnFields row ++ s.relationFields).map Prod.fst).Nodup := by
    rw [List.map_append, List.nodup_append]
    refine ⟨hcolumns, s.names_relationFields_sublist.nodup hfields, ?_⟩
    rintro name hname other hother rfl
    obtain ⟨target, htarget⟩ := fieldType?_of_mem_relationFields hfields hother
    obtain ⟨e, he, rfl⟩ := List.mem_map.mp hname
    exact hrelation e he target htarget
  have hshape : s.shape row = Fields.insertAll (Fields.ofPairs (s.columnFields row)) s.relationFields := rfl
  rw [hshape, Fields.ofPairs_of_nodup hcolumns, Fields.insertAll_of_nodup hall]

end Schema

/-! ## Written objects -/

namespace Write

/-- An entry whose value a column keeps: it is canonical for its field, and no key of it means anything. -/
structure IsKept (schema : Schema) (type : FieldType) (name : String) (v : Json) : Prop where
  declared : schema.fieldType? name = some type
  canonical : Canonical type v
  key : isReservedKey name = false
  notAuthData : authDataProvider? name = none
  innerKeys : type.column? = some .jsonb → hasReservedKey v = false

variable {schema : Schema}

theorem cellOf_declared {name : String} {type : FieldType} {v : Json} (htype : schema.fieldType? name = some type)
    (hrelation : type.isRelation = false) (hnull : v.isNull = false) :
    cellOf schema name v = if type = .geoPoint then (Geometry.point v).map fun p => some (.point p)
      else (Encoding.encode type v).map fun v => some (.value v (listCast type)) := by
  have hwritten : writtenType schema name = .ok type := by
    rw [writtenType, htype]
    rfl
  rw [cellOf, hnull, hwritten]
  simp only [Except.bind, hrelation, Bool.false_and, Bool.false_eq_true, if_false]

theorem cellOf_eq {name : String} {type : FieldType} {v : Json} {stored : Value}
    (htype : schema.fieldType? name = some type) (hrelation : type.isRelation = false) (hnull : v.isNull = false)
    (h : Encoding.encode type v = .ok stored) : ∃ c, cellOf schema name v = .ok (some c) ∧ c.held = stored := by
  rw [cellOf_declared htype hrelation hnull]
  split
  · rename_i hpoint
    subst hpoint
    have hencode : (Geometry.point v).map Value.point = .ok stored := by
      simpa only [Encoding.encode, hnull, Bool.false_eq_true, if_false] using h
    obtain ⟨p, hp, rfl⟩ := Result.map_ok hencode
    exact ⟨.point p, by rw [hp]; rfl, rfl⟩
  · exact ⟨.value stored (listCast type), by rw [h]; rfl, rfl⟩

/-- A cell under an entry's name that shows the entry's value. -/
structure Shows (schema : Schema) (e : String × Json) (c : String × Cell) : Prop where
  name : c.1 = e.1
  shown : ∃ w, schema.fieldJson? c.1 c.2.held = some w ∧ Json.Same w (schema.shown e.1 e.2)

theorem IsKept.exists_shows {type : FieldType} {e : String × Json} (h : IsKept schema type e.1 e.2) :
    ∃ c, cellOf schema e.1 e.2 = .ok (some c) ∧ Shows schema e (e.1, c) := by
  obtain ⟨stored, hstored, hshown⟩ := Schema.exists_shown h.declared h.canonical
  have hrelation : type.isRelation = false := by
    cases type with
    | relation target => exact h.canonical.elim
    | _ => rfl
  have hnull : e.2.isNull = false := Encoding.isNull_of_canonical h.canonical
  obtain ⟨c, hc, rfl⟩ := cellOf_eq h.declared hrelation hnull hstored
  exact ⟨c, hc, rfl, hshown⟩

theorem cellsOf_ok {object : Document}
    (h : ∀ e ∈ object, ∃ c, cellOf schema e.1 e.2 = .ok (some c) ∧ Shows schema e (e.1, c)) :
    ∃ cells, cellsOf schema object = .ok cells ∧ List.Forall₂ (Shows schema) object cells := by
  induction object with
  | nil => exact ⟨[], rfl, .nil⟩
  | cons e rest ih =>
      obtain ⟨c, hc, hshows⟩ := h e (.head _)
      obtain ⟨cells, hcells, hrest⟩ := ih fun e' he' => h e' (.tail _ he')
      refine ⟨(e.1, c) :: cells, ?_, .cons hshows hrest⟩
      rw [cellsOf, hc, hcells]
      rfl

/-- An object whose entries are kept is accepted, with a cell for each entry. -/
theorem insert_ok {object : Document} (h : ∀ e ∈ object, ∃ type, IsKept schema type e.1 e.2) :
    ∃ cells, insert schema object = .ok (.ofCells cells) ∧ List.Forall₂ (Shows schema) object cells := by
  have hexpand : expandDots object = object := by
    refine expandDots_eq_self fun e he => ?_
    obtain ⟨type, hkept⟩ := h e he
    exact Bool.eq_false_iff.mpr fun hpoint => Bool.eq_false_iff.mp hkept.key (isReserved_of_hasPoint hpoint)
  have hfold : foldAuthData object = object := by
    refine foldAuthData_eq_self fun e he => ?_
    obtain ⟨type, hkept⟩ := h e he
    exact hkept.notAuthData
  have hkeys : hasReservedKey (.object object) = false := by
    rw [hasReservedKey, anyReserved_eq, List.any_eq_false]
    intro e he
    obtain ⟨type, hkept⟩ := h e he
    rw [hkept.key, hasReservedKey_of_canonical hkept.canonical hkept.innerKeys]
    decide
  have hvalid : validateNestedKeys (.object object) = .ok () := by
    rw [validateNestedKeys, hkeys]
    rfl
  obtain ⟨cells, hcells, hshows⟩ := cellsOf_ok fun e he => (h e he).elim fun type hkept => hkept.exists_shows
  refine ⟨cells, ?_, hshows⟩
  rw [insert, hexpand, hfold, hvalid, hcells]
  rfl

/-- The columns of cells and what they hold. -/
def heldColumns (cells : Fields Cell) : List (String × Value) := cells.map fun c => (c.1, c.2.held)

theorem names_heldColumns (cells : Fields Cell) : (heldColumns cells).map Prod.fst = cells.map Prod.fst := by
  rw [heldColumns, List.map_map]
  rfl

namespace Insert

theorem cells_ofCells_perm (cells : Fields Cell) : (ofCells cells).cells.Perm cells := by
  have h := List.filter_append_perm (fun c : String × Cell => c.2.isPoint) cells
  exact List.perm_append_comm.trans h

variable {i : Insert} {row : List (String × Value)}

/-- There is such a row. -/
theorem isReturned_heldColumns (hcast : ∀ c ∈ i.cells, c.2.HasCast) (hcolumns : i.columns.Nodup) :
    i.IsReturned (heldColumns i.cells) := by
  rw [isReturned_iff hcast, names_heldColumns]
  refine ⟨hcolumns, fun c hc => List.mem_map_of_mem hc, fun e he hname => ?_⟩
  have hmem : e.1 ∈ (heldColumns i.cells).map Prod.fst := List.mem_map_of_mem he
  rw [names_heldColumns] at hmem
  exact absurd hmem hname

/-- Whatever the order of its columns, a row that is returned has the fields that were written. -/
theorem IsReturned.columnFields_perm (hcast : ∀ c ∈ i.cells, c.2.HasCast) (hcolumns : i.columns.Nodup)
    (h : i.IsReturned row) : (schema.columnFields row).Perm (schema.columnFields (heldColumns i.cells)) := by
  obtain ⟨hnames, hcells, hothers⟩ := (isReturned_iff hcast).mp h
  have hrow : ((schema.columnFields row).map Prod.fst).Nodup := (schema.names_columnFields_sublist row).nodup hnames
  have hheld : ((schema.columnFields (heldColumns i.cells)).map Prod.fst).Nodup := by
    refine (schema.names_columnFields_sublist _).nodup ?_
    rwa [names_heldColumns]
  refine (List.perm_ext_iff_of_nodup (.of_map _ hrow) (.of_map _ hheld)).mpr ?_
  rintro ⟨name, w⟩
  rw [Schema.mem_columnFields, Schema.mem_columnFields]
  constructor
  · rintro ⟨v, hv, hw⟩
    by_cases hname : name ∈ i.columns
    · obtain ⟨⟨k, c⟩, hc, rfl⟩ := List.mem_map.mp hname
      have hheld := hcells _ hc
      rw [← Fields.get?_eq_some_iff hnames] at hv hheld
      rw [hv] at hheld
      cases hheld
      exact ⟨c.held, List.mem_map_of_mem (f := fun c => (c.1, c.2.held)) hc, hw⟩
    · have hnull : v = .null := hothers (name, v) hv hname
      rw [hnull] at hw
      cases hw
  · rintro ⟨v, hv, hw⟩
    obtain ⟨c, hc, he⟩ := List.mem_map.mp hv
    cases he
    exact ⟨c.2.held, hcells c hc, hw⟩

end Insert

variable {object : Document} {cells : Fields Cell}

theorem names_of_shows (h : List.Forall₂ (Shows schema) object cells) :
    cells.map Prod.fst = object.map Prod.fst := by
  induction h with
  | nil => rfl
  | cons hshows _ ih => rw [List.map_cons, List.map_cons, hshows.name, ih]

theorem sameFields_of_shows (h : List.Forall₂ (Shows schema) object cells) :
    Json.SameFields (schema.columnFields (heldColumns cells)) (schema.shownFields object) := by
  induction h with
  | nil => exact .nil
  | cons hshows _ ih =>
      obtain ⟨hname, w, hw, hsame⟩ := hshows
      rw [heldColumns, List.map_cons, Schema.columnFields_cons hw, hname]
      exact .cons hsame ih

/--
What is written is read back: an object whose entries are kept is accepted, and any row that has in each written
column what was bound for it is shaped into the same object, with the relations of the class beside its fields.
-/
theorem insert_shape_same (schema : Schema) (object : Document) (hfields : (schema.fields.map Prod.fst).Nodup)
    (hnames : (object.map Prod.fst).Nodup) (h : ∀ e ∈ object, ∃ type, IsKept schema type e.1 e.2) :
    ∃ i, insert schema object = .ok i ∧ (∃ row, i.IsReturned row) ∧ ∀ row, i.IsReturned row →
      Json.Same (.object (schema.shape row)) (.object (schema.shownFields object ++ schema.relationFields)) := by
  obtain ⟨cells, hinsert, hshows⟩ := insert_ok h
  have hcells : cells.map Prod.fst = object.map Prod.fst := names_of_shows hshows
  have hperm : (Insert.ofCells cells).cells.Perm cells := Insert.cells_ofCells_perm cells
  have hcolumns : (Insert.ofCells cells).columns.Nodup := by
    rw [Insert.columns, (hperm.map Prod.fst).nodup_iff, hcells]
    exact hnames
  have hcast := insert_hasCast hinsert
  refine ⟨.ofCells cells, hinsert, ⟨_, Insert.isReturned_heldColumns hcast hcolumns⟩, fun row hrow => ?_⟩
  have hwritten : (schema.columnFields row).Perm (schema.columnFields (heldColumns cells)) :=
    (hrow.columnFields_perm hcast hcolumns).trans ((hperm.map _).filterMap _)
  have hshape : schema.shape row = schema.columnFields row ++ schema.relationFields := by
    refine Schema.shape_of_nodup hfields hrow.names fun e he target htarget => ?_
    -- A field of the row was written, so it is declared with a type that is no relation.
    have hname : e.1 ∈ (heldColumns cells).map Prod.fst :=
      (schema.names_columnFields_sublist _).subset (List.mem_map_of_mem (hwritten.subset he))
    rw [names_heldColumns, hcells] at hname
    obtain ⟨e', he', hname⟩ := List.mem_map.mp hname
    obtain ⟨type, hkept⟩ := h e' he'
    have htype := hkept.declared
    rw [hname, htarget] at htype
    cases htype
    exact hkept.canonical
  rw [hshape]
  exact .object (hwritten.append_right _) ((sameFields_of_shows hshows).append (.refl _))

/-- Games as they are stored, with their owners, their places and a relation. -/
def games : Schema :=
  Schema.toStorage ⟨"Game", [("objectId", .ofType .string), ("createdAt", .ofType .date), ("score", .ofType .number),
    ("tags", .ofType (.arrayOf .string)), ("items", .ofType .array), ("location", .ofType .geoPoint),
    ("owner", .ofType (.pointer "_User")), ("fans", .ofType (.relation "_User"))], none, []⟩

/-- The latitude 40.5 and the longitude -73.25. -/
def gamePlace : Json.Number × Json.Number := (.float ⟨0x4044400000000000⟩, .float ⟨0xc052500000000000⟩)

def game : Document :=
  [("objectId", .string "g1"), ("createdAt", .object (Encoding.dateFields "2024-03-01T12:00:00.000Z")),
    ("score", .int 3), ("tags", .array [.string "board", .string "classic"]),
    ("items", .array [.int 1, .object [("k", .string "v")]]), ("location", .object (Encoding.pointFields gamePlace)),
    ("owner", .object (Encoding.pointerFields "_User" "u1"))]

theorem insert_shape_same_game : ∃ i row, insert games game = .ok i ∧ i.IsReturned row ∧
    Json.Same (.object (games.shape row)) (.object
      [("objectId", .string "g1"), ("createdAt", .string "2024-03-01T12:00:00.000Z"), ("score", .int 3),
        ("tags", .array [.string "board", .string "classic"]),
        ("items", .array [.int 1, .object [("k", .string "v")]]),
        ("location", .object (Encoding.pointFields gamePlace)),
        ("owner", .object (Encoding.pointerFields "_User" "u1")),
        ("fans", .object [("__type", .string "Relation"), ("className", .string "_User")])]) := by
  have hiso : Time.IsIso "2024-03-01T12:00:00.000Z" :=
    ⟨2024, 3, 1, 12, 0, 0, 0, by decide, by decide, by decide, by decide, by decide, by decide, by decide⟩
  have hplace : Geometry.IsPosition gamePlace :=
    ⟨⟨by decide +kernel, by decide +kernel⟩, ⟨by decide +kernel, by decide +kernel⟩, by decide +kernel⟩
  have hthree : Json.Number.IsCanonical (.integer 3) := show (3 : Int).natAbs < 0x20000000000000 by decide
  have hkept : ∀ e ∈ game, ∃ type, IsKept games type e.1 e.2 := by
    simp only [game, List.forall_mem_cons]
    refine ⟨⟨.string, rfl, ⟨_, rfl⟩, by decide, by decide, by decide⟩,
      ⟨.date, rfl, ⟨_, hiso, _, rfl, .refl _⟩, by decide, by decide, by decide⟩,
      ⟨.number, rfl, ⟨_, hthree, rfl⟩, by decide, by decide, by decide⟩,
      ⟨.arrayOf .string, rfl, ⟨["board", "classic"], rfl⟩, by decide, by decide, by decide⟩,
      ⟨.array, rfl, ⟨_, rfl⟩, by decide, by decide, by decide⟩,
      ⟨.geoPoint, rfl, ⟨_, hplace, _, rfl, .refl _⟩, by decide, by decide, by decide⟩,
      ⟨.pointer "_User", rfl, ⟨"u1", _, rfl, .refl _⟩, by decide, by decide, by decide⟩, List.forall_mem_nil _⟩
  obtain ⟨i, hi, ⟨row, hrow⟩, hsame⟩ := insert_shape_same games game (by decide) (by decide) hkept
  exact ⟨i, row, hi, hrow, hsame row hrow⟩

end Write

end Docstore
