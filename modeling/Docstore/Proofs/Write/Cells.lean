import Docstore.Proofs.Store.Alignment
import Docstore.Proofs.Write.Columns

/-!
# Columns of inserts

Which columns an insert writes and what it binds for each, read off the placeholders' texts. Every column has its own
placeholders, bound to its own value, and the class's table has the column (`insert_columns_aligned`).
-/

namespace Docstore

open Docstore.Sql (Bindings Definition Template)

/-! ## Consecutive placeholders -/

/-- Templates that are written one after the other are numbered without gaps. -/
theorem Sql.Bindings.readPlaceholders_writeAll {ts : List Template} (h : ∀ t ∈ ts, t.Fresh) (b : Bindings) :
    ∃ numbers : List (List Nat),
      (b.writeAll ts).1.map (fun f => Sql.readPlaceholders (Sql.render f)) = numbers.map some ∧
      numbers.flatten = List.range' b.next (ts.flatMap Template.values).length := by
  induction ts generalizing b with
  | nil => exact ⟨[], rfl, rfl⟩
  | cons t ts ih =>
      obtain ⟨ht, hts⟩ := List.forall_mem_cons.mp h
      obtain ⟨numbers, hread, hflatten⟩ := ih hts (b.append t.values)
      refine ⟨List.range' b.next t.values.length :: numbers, ?_, ?_⟩
      · rw [writeAll_cons, List.map_cons, hread, (ht.1 _).readPlaceholders_render, ht.placeholders, List.map_cons]
      · rw [List.flatten_cons, hflatten, next_append, List.flatMap_cons, List.length_append, List.range'_append_1]

namespace Write

/-! ## Folded auth data -/

def foldEntry (out : Document) (e : String × Json) : Document :=
  match authDataProvider? e.1 with
  | some provider => foldProvider out e.1 provider
  | none => out

theorem foldAuthData_eq (object : Document) : foldAuthData object = object.foldl foldEntry object := rfl

theorem nodup_foldEntry {out : Document} (h : (Fields.names out).Nodup) (e : String × Json) :
    (Fields.names (foldEntry out e)).Nodup := by
  unfold foldEntry foldProvider
  split
  · split
    · exact h
    · exact Fields.nodup_insert (Fields.nodup_erase h)
  · exact h

theorem nodup_foldAuthData {object : Document} (h : (Fields.names object).Nodup) :
    (Fields.names (foldAuthData object)).Nodup :=
  List.foldlRecOn (motive := fun out => (Fields.names out).Nodup) _ foldEntry h fun _ hout e _ => nodup_foldEntry hout e

/-- Whether the entry under a name is folded. -/
def IsFolded (e : String × Json) (name : String) : Prop := (authDataProvider? e.1).isSome ∧ e.1 = name

theorem not_isFolded_authData (e : String × Json) : ¬ IsFolded e "authData" := by
  rintro ⟨hsome, heq⟩
  have hnone : authDataProvider? "authData" = none := by decide
  rw [heq, hnone] at hsome
  cases hsome

theorem mem_names_foldEntry {out : Document} (hout : (Fields.names out).Nodup) {e : String × Json}
    (hthere : (authDataProvider? e.1).isSome → e.1 ∈ Fields.names out) (name : String) :
    name ∈ Fields.names (foldEntry out e) ↔
      name ∈ Fields.names out ∧ ¬ IsFolded e name ∨ name = "authData" ∧ (authDataProvider? e.1).isSome := by
  unfold foldEntry IsFolded
  cases hprovider : authDataProvider? e.1 with
  | none => simp
  | some provider =>
      obtain ⟨value, hvalue⟩ : ∃ value, Fields.get? e.1 out = some value := by
        refine Option.ne_none_iff_exists'.mp fun hnone => ?_
        exact Fields.get?_eq_none_iff.mp hnone (hthere (by rw [hprovider]; rfl))
      simp only [foldProvider, hvalue, Fields.names_insert, Fields.names_erase, Option.isSome_some, true_and, and_true]
      -- Whether the common entry is there yet, it is there afterwards.
      split
      next hauth =>
        rw [hout.mem_erase_iff] at hauth ⊢
        constructor
        · exact fun h => .inl ⟨h.2, Ne.symm h.1⟩
        · rintro (h | rfl)
          · exact ⟨Ne.symm h.2, h.1⟩
          · exact hauth
      next =>
        rw [List.mem_append, hout.mem_erase_iff, List.mem_singleton]
        exact or_congr_left ⟨fun h => ⟨h.2, Ne.symm h.1⟩, fun h => ⟨Ne.symm h.2, h.1⟩⟩

/-- Entries that are folded leave the name of all of them, the others their own. -/
theorem mem_names_foldl_foldEntry {entries out : Document} (hout : (Fields.names out).Nodup)
    (hentries : (Fields.names entries).Nodup)
    (hthere : ∀ e ∈ entries, (authDataProvider? e.1).isSome → e.1 ∈ Fields.names out) (name : String) :
    name ∈ Fields.names (entries.foldl foldEntry out) ↔
      name ∈ Fields.names out ∧ (¬ ∃ e ∈ entries, IsFolded e name) ∨
        name = "authData" ∧ ∃ e ∈ entries, (authDataProvider? e.1).isSome := by
  induction entries generalizing out with
  | nil => simp
  | cons e entries ih =>
      obtain ⟨he, hrest⟩ := List.nodup_cons.mp hentries
      obtain ⟨hhead, htail⟩ := List.forall_mem_cons.mp hthere
      have hthere' : ∀ e' ∈ entries, (authDataProvider? e'.1).isSome → e'.1 ∈ Fields.names (foldEntry out e) := by
        intro e' he' hsome
        refine (mem_names_foldEntry hout hhead _).mpr (.inl ⟨htail e' he' hsome, fun hfolded => he ?_⟩)
        exact hfolded.2 ▸ List.mem_map_of_mem he'
      rw [List.foldl_cons, ih (nodup_foldEntry hout e) hrest hthere', mem_names_foldEntry hout hhead]
      simp only [List.mem_cons, exists_eq_or_imp, not_or]
      by_cases hname : name = "authData"
      · simp [hname, not_isFolded_authData, or_assoc]
      · simp [hname, and_assoc]

theorem mem_names_foldAuthData {object : Document} (h : (Fields.names object).Nodup) {name : String} :
    name ∈ Fields.names (foldAuthData object) ↔ name ∈ columnsOf (Fields.names object) := by
  have hfold := mem_names_foldl_foldEntry h h (fun e he _ => List.mem_map_of_mem he) name
  rw [foldAuthData_eq, hfold, mem_columnsOf]
  constructor
  · rintro (⟨hmem, hnot⟩ | ⟨rfl, e, he, hsome⟩)
    · obtain ⟨e, he, rfl⟩ := List.mem_map.mp hmem
      exact ⟨e.1, hmem, if_neg fun hsome => hnot ⟨e, he, hsome, rfl⟩⟩
    · exact ⟨e.1, List.mem_map_of_mem he, if_pos hsome⟩
  · rintro ⟨key, hkey, rfl⟩
    obtain ⟨e, he, rfl⟩ := List.mem_map.mp hkey
    split
    next hsome => exact .inr ⟨rfl, e, he, hsome⟩
    next hnone =>
      refine .inl ⟨hkey, ?_⟩
      rintro ⟨e', -, hsome, heq⟩
      exact hnone (heq ▸ hsome)

/-! ## Cells of entries -/

/-- Whether an insert writes an entry: nulls are left out, and so are the sets of related objects. -/
def isInserted (schema : Schema) (e : String × Json) : Bool :=
  !e.2.isNull && !((schema.fieldType? e.1).any (·.isRelation) && e.2.typeTag? = some "Relation")

def isPlace (schema : Schema) (name : String) : Bool := schema.fieldType? name = some .geoPoint

variable {schema : Schema}

/-- Columns that are not declared are those of auth data and the hidden ones of users. -/
theorem writtenType_ok {name : String} {type : FieldType} (h : writtenType schema name = .ok type) :
    schema.fieldType? name = some type ∨ schema.fieldType? name = none ∧
      (name = "authData" ∧ type = .object ∨
        (if schema.isUserClass then Fields.get? name Schema.userHiddenFields else none) = some type) := by
  unfold writtenType at h
  dsimp only at h
  cases hfield : schema.fieldType? name with
  | some declared =>
      rw [hfield] at h
      cases h
      exact .inl rfl
  | none =>
      refine .inr ⟨rfl, ?_⟩
      rw [hfield, Option.none_or] at h
      by_cases hauth : name = "authData"
      · rw [if_pos hauth] at h
        cases h
        exact .inl ⟨hauth, rfl⟩
      · rw [if_neg hauth] at h
        refine .inr ?_
        cases hhidden : schema.isUserClass <;> rw [hhidden] at h
        · cases h
        · rw [if_pos rfl] at h ⊢
          split at h
          next hget =>
            cases h
            exact hget
          next => cases h

theorem userHiddenFields_plain : ∀ e ∈ Schema.userHiddenFields, e.2.isRelation = false ∧ e.2 ≠ .geoPoint := by decide

/-- A column that is not declared is none of related objects and none of places. -/
theorem fieldType?_of_writtenType {name : String} {type : FieldType} (h : writtenType schema name = .ok type) :
    (schema.fieldType? name).any (·.isRelation) = type.isRelation ∧
      isPlace schema name = decide (type = .geoPoint) := by
  rcases writtenType_ok h with hfield | ⟨hfield, hknown⟩
  · simp [isPlace, hfield]
  · have hplain : type.isRelation = false ∧ type ≠ .geoPoint := by
      rcases hknown with ⟨-, rfl⟩ | hhidden
      · decide
      · split at hhidden
        · exact userHiddenFields_plain _ (Fields.mem_of_get?_eq_some hhidden)
        · cases hhidden
    simp [isPlace, hfield, hplain]

/-- A cell that holds an entry's value, encoded for the entry's column. -/
structure Holds (schema : Schema) (e : String × Json) (c : String × Cell) : Prop where
  name : c.1 = e.1
  isPoint : c.2.isPoint = isPlace schema e.1
  held : ∃ type, writtenType schema e.1 = .ok type ∧ Encoding.encode type e.2 = .ok c.2.held

theorem cellOf_ok {name : String} {v : Json} {c : Option Cell} (h : cellOf schema name v = .ok c) :
    c = none ∧ isInserted schema (name, v) = false ∨
      ∃ cell, c = some cell ∧ isInserted schema (name, v) = true ∧ Holds schema (name, v) (name, cell) := by
  unfold cellOf at h
  unfold isInserted
  cases hnull : v.isNull with
  | true =>
      rw [hnull] at h
      cases h
      exact .inl ⟨rfl, rfl⟩
  | false =>
      rw [hnull, if_neg Bool.false_ne_true] at h
      obtain ⟨type, htype, h⟩ := Result.bind_ok h
      obtain ⟨hrelation, hplace⟩ := fieldType?_of_writtenType htype
      rw [hrelation]
      split at h
      next hleft =>
        cases h
        exact .inl ⟨rfl, by simp [hleft]⟩
      next hkept =>
        refine .inr ?_
        rw [Bool.not_eq_true] at hkept
        split at h
        next hpoint =>
          obtain ⟨p, hp, rfl⟩ := Result.map_ok h
          refine ⟨.point p, rfl, by simp [hkept], rfl, ?_, type, htype, ?_⟩
          · simpa [hpoint, Cell.isPoint] using hplace.symm
          · simp [Encoding.encode, hnull, hpoint, hp, Except.map, Cell.held]
        next hpoint =>
          obtain ⟨stored, hstored, rfl⟩ := Result.map_ok h
          refine ⟨.value stored (listCast type), rfl, by simp [hkept], rfl, ?_, type, htype, hstored⟩
          simpa [hpoint, Cell.isPoint] using hplace.symm

theorem cellsOf_holds {object : Document} {cells : Fields Cell} (h : cellsOf schema object = .ok cells) :
    List.Forall₂ (Holds schema) (object.filter (isInserted schema)) cells := by
  induction object generalizing cells with
  | nil =>
      cases h
      exact .nil
  | cons e object ih =>
      obtain ⟨cell, hcell, h⟩ := Result.bind_ok h
      obtain ⟨others, hothers, h⟩ := Result.bind_ok h
      cases h
      rcases cellOf_ok hcell with ⟨rfl, hleft⟩ | ⟨cell, rfl, hkept, hholds⟩
      · rw [List.filter_cons_of_neg (by simp [hleft])]
        exact ih hothers
      · rw [List.filter_cons_of_pos hkept]
        exact .cons hholds (ih hothers)

theorem names_of_holds {written : Document} {cells : Fields Cell} (h : List.Forall₂ (Holds schema) written cells) :
    Fields.names cells = Fields.names written := by
  induction h with
  | nil => rfl
  | cons hholds _ ih => exact congrArg₂ _ hholds.name ih

theorem exists_holds {written : Document} {cells : Fields Cell} (h : List.Forall₂ (Holds schema) written cells)
    {c : String × Cell} (hc : c ∈ cells) : ∃ e ∈ written, Holds schema e c := by
  induction h with
  | nil => cases hc
  | cons hholds _ ih =>
      rcases List.mem_cons.mp hc with rfl | hc
      · exact ⟨_, .head _, hholds⟩
      · obtain ⟨e, he, hholds'⟩ := ih hc
        exact ⟨e, .tail _ he, hholds'⟩

theorem Insert.columns_ofCells {written : Document} {cells : Fields Cell}
    (h : List.Forall₂ (Holds schema) written cells) :
    (ofCells cells).columns =
      Fields.names (written.filter fun e => !isPlace schema e.1) ++
        Fields.names (written.filter fun e => isPlace schema e.1) := by
  have hothers := List.rel_filter (p := fun e : String × Json => !isPlace schema e.1)
    (q := fun c : String × Cell => !c.2.isPoint) (fun e c hholds => by simp [hholds.isPoint]) h
  have hplaces := List.rel_filter (p := fun e : String × Json => isPlace schema e.1)
    (q := fun c : String × Cell => c.2.isPoint) (fun e c hholds => by simp [hholds.isPoint]) h
  rw [columns, ofCells, List.map_append]
  exact congrArg₂ _ (names_of_holds hothers) (names_of_holds hplaces)

/-- A place is bound as two values, all else as one. -/
theorem length_values_cells (cells : Fields Cell) :
    (cells.flatMap fun c => c.2.template.values).length = cells.length + (cells.filter (·.2.isPoint)).length := by
  induction cells with
  | nil => rfl
  | cons c cells ih =>
      obtain ⟨name, cell⟩ := c
      rw [List.flatMap_cons, List.length_append, ih]
      cases cell <;> simp [Cell.isPoint] <;> omega

/-! ## Columns of tables -/

/-- A value that could be encoded is not one of a set of related objects. -/
theorem isRelation_of_encode {type : FieldType} {v : Json} {stored : Value} (hnull : v.isNull = false)
    (h : Encoding.encode type v = .ok stored) : type.isRelation = false := by
  cases type with
  | relation target =>
      rw [Encoding.encode, hnull] at h
      cases h
  | _ => rfl

/-- What an insert writes has a column in the class's table, but for auth data that are not declared. -/
theorem mem_classColumns {name : String} {type : FieldType} (hwritten : writtenType schema name = .ok type)
    (hrelation : type.isRelation = false) :
    name ∈ (Definition.classColumns schema).map (·.name) ∨
      name = "authData" ∧ schema.fieldType? "authData" = none := by
  have hfields : (Definition.classFields schema).get? name = some type ∨
      name = "authData" ∧ schema.fieldType? "authData" = none := by
    rw [Schema.classFields_get?]
    rcases writtenType_ok hwritten with hfield | ⟨hfield, ⟨rfl, -⟩ | hhidden⟩
    · exact .inl (by rw [hfield]; rfl)
    · exact .inr ⟨rfl, hfield⟩
    · exact .inl (by rw [hfield, hhidden]; rfl)
  refine hfields.imp_left fun hget => ?_
  obtain ⟨column, hcolumn⟩ := Option.ne_none_iff_exists'.mp (FieldType.isRelation_eq_false_iff.mp hrelation)
  obtain ⟨c, hc, hname⟩ : ∃ c, Definition.classColumn? name type = some c ∧ c.name = name := by
    rw [Definition.classColumn?, hcolumn]
    exact ⟨_, rfl, rfl⟩
  exact List.mem_map.mpr ⟨c, List.mem_filterMap.mpr ⟨(name, type), Fields.mem_of_get?_eq_some hget, hc⟩, hname⟩

/-! ## Inserts -/

theorem insert_holds {object : Document} {i : Insert} (h : insert schema object = .ok i) :
    ∃ cells, i = .ofCells cells ∧
      List.Forall₂ (Holds schema) ((foldAuthData (expandDots object)).filter (isInserted schema)) cells := by
  obtain ⟨-, -, h⟩ := Result.bind_ok h
  obtain ⟨cells, hcells, h⟩ := Result.bind_ok h
  cases h
  exact ⟨cells, rfl, cellsOf_holds hcells⟩

namespace Insert

variable {i : Insert} {written : Document}

theorem readPlaceholders_placeholders (hcast : ∀ c ∈ i.cells, c.2.HasCast)
    (hcells : ∀ c ∈ i.cells, ∃ e ∈ written, Holds schema e c) :
    ∃ numbers : List (List Nat),
      i.placeholders.map (fun f => Sql.readPlaceholders (Sql.render f)) = numbers.map some ∧
      numbers.flatten = List.range' 1 (i.columns.length + (i.columns.filter (isPlace schema)).length) := by
  have hfresh : ∀ t ∈ i.cells.map (fun c => c.2.template), t.Fresh := by
    intro t ht
    obtain ⟨c, hc, rfl⟩ := List.mem_map.mp ht
    exact Cell.template_fresh (hcast c hc)
  have hplaces : i.columns.filter (isPlace schema) = (i.cells.filter (·.2.isPoint)).map Prod.fst := by
    rw [columns, List.filter_map]
    refine congrArg _ (List.filter_congr fun c hc => ?_)
    obtain ⟨e, -, hholds⟩ := hcells c hc
    rw [hholds.isPoint, ← hholds.name]
    rfl
  obtain ⟨numbers, hnumbers, hflatten⟩ := Bindings.readPlaceholders_writeAll hfresh .empty
  refine ⟨numbers, hnumbers, ?_⟩
  rw [hflatten, List.flatMap_map, length_values_cells, hplaces, List.length_map, columns, List.length_map]
  rfl

/-- What stands for a column is the value of the column's entry, encoded for the column. -/
def IsOwnValue (i : Insert) (schema : Schema) (written : Document) (column : String) (f : Sql.Fragment) : Prop :=
  ∃ v type stored ls, (column, v) ∈ written ∧ writtenType schema column = .ok type ∧
    Encoding.encode type v = .ok stored ∧ Sql.read (Sql.render f) = some ls ∧
    Denotes (Bindings.items ⟨1, i.values⟩ ls) stored

theorem isOwnValue_placeholders (hcast : ∀ c ∈ i.cells, c.2.HasCast)
    (hcells : ∀ c ∈ i.cells, ∃ e ∈ written, Holds schema e c) :
    ∀ e ∈ i.columns.zip i.placeholders, i.IsOwnValue schema written e.1 e.2 := by
  have hread := (List.forall₂_and_left _ _).mpr ⟨hcells, read_placeholders hcast⟩
  refine (forall_zip_iff (P := i.IsOwnValue schema written) (Q := fun _ => True) (hread.imp ?_)).mpr fun _ _ => trivial
  rintro c f ⟨⟨e, he, hholds⟩, hcast, ls, hls, hitems⟩
  obtain ⟨type, htype, hstored⟩ := hholds.held
  refine iff_of_true ⟨e.2, type, c.2.held, ls, ?_, ?_, hstored, hls, ?_⟩ trivial
  · rwa [hholds.name]
  · rwa [hholds.name]
  · rw [hitems, denotes_iff hcast]

end Insert

/--
An insert writes each entry of the expanded document once, places last, but for nulls and sets of related objects. Its
placeholders are numbered from one on in the order of the columns, each column's are bound to the column's own value,
and the class's table has all columns but those of auth data that are not declared.
-/
theorem insert_columns_aligned {object : Document} {i : Insert} (hnodup : (Fields.names object).Nodup)
    (hi : insert schema object = .ok i) :
    ∃ (written : Document) (numbers : List (List Nat)) (table : List Sql.ColumnDefinition) (key : List String),
      written = (foldAuthData (expandDots object)).filter (isInserted schema) ∧
      (∀ column, column ∈ Fields.names (foldAuthData (expandDots object)) ↔ ∃ e ∈ object, columnOf e.1 = column) ∧
      i.columns = Fields.names (written.filter fun e => !isPlace schema e.1) ++
        Fields.names (written.filter fun e => isPlace schema e.1) ∧
      i.columns.Nodup ∧ i.placeholders.length = i.columns.length ∧
      i.placeholders.map (fun f => Sql.readPlaceholders (Sql.render f)) = numbers.map some ∧
      numbers.flatten = List.range' 1 (i.columns.length + (i.columns.filter (isPlace schema)).length) ∧
      (∀ e ∈ i.columns.zip i.placeholders, i.IsOwnValue schema written e.1 e.2) ∧
      Definition.classTable schema = .createTable schema.className table key ∧
      ∀ column ∈ i.columns, column ∈ table.map (·.name) ∨
        column = "authData" ∧ schema.fieldType? "authData" = none := by
  have hcast := insert_hasCast hi
  have hexpanded : (Fields.names (expandDots object)).Nodup := nodup_expandDots hnodup
  obtain ⟨cells, rfl, hcells⟩ := insert_holds hi
  have hperm := Insert.cells_ofCells_perm cells
  have hentry : ∀ c ∈ (Insert.ofCells cells).cells, ∃ e ∈ (foldAuthData (expandDots object)).filter (isInserted schema),
      Holds schema e c := fun c hc => exists_holds hcells (hperm.mem_iff.mp hc)
  obtain ⟨numbers, hnumbers, hflatten⟩ := Insert.readPlaceholders_placeholders hcast hentry
  refine ⟨_, numbers, Definition.classColumns schema, _, rfl, fun column => ?_, Insert.columns_ofCells hcells, ?_, ?_,
    hnumbers, hflatten, Insert.isOwnValue_placeholders hcast hentry, rfl, fun column hcolumn => ?_⟩
  · rw [mem_names_foldAuthData hexpanded, names_expandDots hnodup, mem_columnsOf_topKeys]
  · rw [Insert.columns, (hperm.map Prod.fst).nodup_iff, ← Fields.names, names_of_holds hcells]
    exact Fields.nodup_filter _ (nodup_foldAuthData hexpanded)
  · rw [Insert.columns, List.length_map]
    exact (Insert.read_placeholders hcast).length_eq.symm
  · obtain ⟨c, hc, rfl⟩ := List.mem_map.mp hcolumn
    obtain ⟨e, he, hholds⟩ := hentry c hc
    obtain ⟨type, htype, hstored⟩ := hholds.held
    have hnull : e.2.isNull = false := by
      have hkept := (List.mem_filter.mp he).2
      simpa using (Bool.and_eq_true_iff.mp hkept).1
    rw [hholds.name]
    exact mem_classColumns htype (isRelation_of_encode hnull hstored)

def newGame : Document :=
  [("location", .object (Encoding.pointFields gamePlace)), ("score", .int 3), ("owner", .null),
    ("fans", .object [("__type", .string "Relation"), ("className", .string "_User")]),
    ("_auth_data_mail", .object [("id", .string "m")])]

set_option maxRecDepth 10000 in
theorem insert_columns_aligned_game :
    ∃ i numbers, insert games newGame = .ok i ∧ i.columns = ["score", "authData", "location"] ∧
      i.placeholders.map (fun f => Sql.readPlaceholders (Sql.render f)) = List.map some numbers ∧
      numbers.flatten = [1, 2, 3, 4] := by
  obtain ⟨i, hi⟩ : ∃ i, insert games newGame = .ok i := ⟨_, rfl⟩
  obtain ⟨written, numbers, table, key, rfl, -, hcolumns, -, -, hnumbers, hflatten, -⟩ :=
    insert_columns_aligned (by decide) hi
  rw [hcolumns] at hflatten
  exact ⟨i, numbers, hi, hcolumns, hnumbers, hflatten⟩

end Write

end Docstore
