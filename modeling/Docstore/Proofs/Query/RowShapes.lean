import Docstore.Proofs.Json.Order
import Docstore.Proofs.Wire.Integers
import Docstore.Query.Pipeline

/-!
# Shapes of rows

The columns that make up a group's id are gathered under one name, a count becomes an integer, and the other columns
stay as they are. Main statement: `Pipeline.shapeRow_reshapes`.
-/

namespace Docstore.Query.Pipeline

variable {p : Pipeline} {row : Document}

/-! ## Ids -/

/-- The parts of a group's id, each with its value in the row. -/
def idParts (keys : List String) (row : Document) : Document :=
  keys.map fun key => (key, (Fields.get? key row).getD .null)

/-- The id of a row: an object of its parts, if there are any. -/
def idOf (p : Pipeline) (row : Document) : Json :=
  if p.groupKeys.isEmpty then (Fields.get? "objectId" row).getD .null else .object (idParts p.groupKeys row)

/-- A row with its id. -/
def withId (p : Pipeline) (row : Document) : Document :=
  if !p.groupKeys.isEmpty then
    Fields.insert "objectId" (.object (groupId p.groupKeys row).1) (groupId p.groupKeys row).2
  else if Fields.contains "objectId" row then row
  else Fields.insert "objectId" .null row

theorem names_idParts (keys : List String) (row : Document) : Fields.names (idParts keys row) = keys :=
  List.map_map.trans (List.map_id keys)

/-- The parts of an id are taken out of the row one after the other. -/
theorem groupId_eq {keys : List String} (hkeys : keys.Nodup) (row : Document) :
    groupId keys row = (idParts keys row, Fields.eraseAll keys row) := by
  suffices hs : ∀ id, keys.foldl (fun (id, row) key =>
      (Fields.insert key ((Fields.get? key row).getD .null) id, Fields.erase key row)) (id, row) =
        (Fields.insertAll id (idParts keys row), Fields.eraseAll keys row) by
    have hnodup : (Fields.names (idParts keys row)).Nodup := (names_idParts keys row).symm ▸ hkeys
    exact (hs []).trans (congrArg (·, _) (Fields.ofPairs_of_nodup hnodup))
  induction keys generalizing row with
  | nil => exact fun _ => rfl
  | cons key keys ih =>
      intro id
      obtain ⟨hkey, hkeys⟩ := List.nodup_cons.mp hkeys
      -- The row without one part has the others.
      have hparts : idParts keys (Fields.erase key row) = idParts keys row :=
        List.map_congr_left fun other hother => by
          rw [Fields.get?_erase_of_ne (ne_of_mem_of_not_mem hother hkey)]
      have hrest := ih hkeys (Fields.erase key row) (Fields.insert key ((Fields.get? key row).getD .null) id)
      rw [hparts] at hrest
      exact hrest

section

variable (hkeys : p.groupKeys.Nodup)

include hkeys

theorem withId_of_ne_nil (hgroup : p.groupKeys ≠ []) :
    p.withId row = Fields.insert "objectId" (.object (idParts p.groupKeys row)) (Fields.eraseAll p.groupKeys row) := by
  have hnot : (!p.groupKeys.isEmpty) = true := by simpa using hgroup
  rw [withId, if_pos hnot, groupId_eq hkeys]

theorem get?_withId_objectId : Fields.get? "objectId" (p.withId row) = some (p.idOf row) := by
  by_cases hgroup : p.groupKeys = []
  · rw [withId, idOf, hgroup]
    cases hid : Fields.get? "objectId" row with
    | none => simp [Fields.contains, hid, Fields.get?_insert_self]
    | some v => simp [Fields.contains, hid]
  · rw [withId_of_ne_nil hkeys hgroup, Fields.get?_insert_self, idOf, if_neg (by simpa using hgroup)]

theorem nodup_withId (hrow : (Fields.names row).Nodup) : (Fields.names (p.withId row)).Nodup := by
  by_cases hgroup : p.groupKeys = []
  · simp only [withId, hgroup, List.isEmpty_nil, Bool.not_true, Bool.false_eq_true, if_false]
    split
    · exact hrow
    · exact Fields.nodup_insert hrow
  · rw [withId_of_ne_nil hkeys hgroup]
    exact Fields.nodup_insert (Fields.nodup_eraseAll hrow)

theorem not_mem_names_withId (hrow : (Fields.names row).Nodup) {key : String} (hkey : key ∈ p.groupKeys)
    (hid : key ≠ "objectId") : key ∉ Fields.names (p.withId row) := by
  rw [withId_of_ne_nil hkeys (List.ne_nil_of_mem hkey), ← Fields.get?_eq_none_iff, Fields.get?_insert_of_ne hid,
    Fields.get?_eraseAll hrow, if_pos hkey]

/-- The other columns stay as they are. -/
theorem filter_withId {keeps : String × Json → Bool} (hid : ∀ v, keeps ("objectId", v) = false)
    (hparts : ∀ key ∈ p.groupKeys, ∀ v, keeps (key, v) = false) : (p.withId row).filter keeps = row.filter keeps := by
  by_cases hgroup : p.groupKeys = []
  · simp only [withId, hgroup, List.isEmpty_nil, Bool.not_true, Bool.false_eq_true, if_false]
    split
    · rfl
    · exact Fields.filter_insert hid
  · rw [withId_of_ne_nil hkeys hgroup, Fields.filter_insert hid, Fields.filter_eraseAll hparts]

end

/-! ## Counts -/

/-- A number of rows as engines report it: an integer of a size that doubles hold, or the text of one. -/
inductive IsCount : Json → Int → Prop
  | integer {n : Int} (h : n.natAbs ≤ 2 ^ 53) : IsCount (Json.int n) n
  | float {x : Double} {n : Int} (hx : x.IsInteger n) (h : n.natAbs ≤ 2 ^ 53) : IsCount (.number (.float x)) n
  | text {s : String} {n : Int} (h : Text.int64? s = some n) : IsCount (.string s) n

theorem countOf_eq {v : Json} {n : Int} (h : IsCount v n) : countOf v = Json.int n := by
  have hbound : int64Bound = 2 ^ 63 := rfl
  cases h with
  | integer h => exact congrArg Json.int ((Double.isInteger_ofInt_of_le h).clamp_eq (by omega) (by omega))
  | float hx h => exact congrArg Json.int (hx.clamp_eq (by omega) (by omega))
  | text h =>
      have hread : (Json.string _).text?.bind Text.int64? = some n := h
      rw [countOf, hread]
      rfl

/-- A row with an integer where rows were counted. -/
def withCount (countField : Option String) (row : Document) : Document :=
  match countField with
  | none => row
  | some field =>
    match Fields.get? field row with
    | some v => Fields.insert field (countOf v) row
    | none => row

section

variable {countField : Option String}

theorem names_withCount : Fields.names (withCount countField row) = Fields.names row := by
  unfold withCount
  split
  · rfl
  · split
    next v hv =>
      have hcontains := Fields.contains_iff.mp (show Fields.contains _ row = true by rw [Fields.contains, hv]; rfl)
      rw [Fields.names_insert, if_pos hcontains]
    · rfl

theorem get?_withCount_self (field : String) (row : Document) :
    Fields.get? field (withCount (some field) row) = (Fields.get? field row).map countOf := by
  cases hv : Fields.get? field row with
  | none => simp [withCount, hv]
  | some v => simp [withCount, hv, Fields.get?_insert_self]

theorem get?_withCount_of_ne {name : String} (h : countField ≠ some name) :
    Fields.get? name (withCount countField row) = Fields.get? name row := by
  unfold withCount
  split
  · rfl
  next field =>
    split
    · exact Fields.get?_insert_of_ne (fun hname => h (congrArg some hname.symm)) _ _
    · rfl

theorem filter_withCount {keeps : String × Json → Bool}
    (h : ∀ field, countField = some field → ∀ v, keeps (field, v) = false) :
    (withCount countField row).filter keeps = row.filter keeps := by
  unfold withCount
  split
  · rfl
  next field =>
    split
    · exact Fields.filter_insert (h field rfl)
    · rfl

end

/-! ## Rows -/

/-- Whether a column is neither the id nor a part of it. -/
def isApart (p : Pipeline) (name : String) : Bool := name ≠ "objectId" && !p.groupKeys.contains name

/-- A row whose id is gathered and whose count is an integer; nothing else is lost or moved. -/
structure Reshaped (p : Pipeline) (row shaped : Document) : Prop where
  nodup : (Fields.names shaped).Nodup
  id : Fields.get? "objectId" shaped = some (p.idOf row)
  parts : ∀ key ∈ p.groupKeys, key ≠ "objectId" → key ∉ Fields.names shaped
  count : ∀ field v n, p.countField = some field → Fields.get? field row = some v → IsCount v n →
    Fields.get? field shaped = some (Json.int n)
  names : (Fields.names shaped).filter p.isApart = (Fields.names row).filter p.isApart
  others : shaped.filter (fun e => p.isApart e.1 && p.countField ≠ some e.1) =
    row.filter fun e => p.isApart e.1 && p.countField ≠ some e.1

theorem isApart_objectId (p : Pipeline) : p.isApart "objectId" = false := rfl

theorem isApart_of_mem {key : String} (h : key ∈ p.groupKeys) : p.isApart key = false := by
  simp [isApart, h]

theorem get?_of_filter_eq {fs gs : Document} {keeps : String → Bool} {name : String} (hname : keeps name = true)
    (h : (fs.filter fun e => keeps e.1) = gs.filter fun e => keeps e.1) : Fields.get? name fs = Fields.get? name gs := by
  have hget (fs : Document) : Fields.get? name (fs.filter fun e => keeps e.1) = Fields.get? name fs := by
    rw [Fields.get?_filter, if_pos hname]
  rw [← hget fs, h, hget]

/-- Rows are reshaped without a loss, if the parts of their id differ from each other and from the count. -/
theorem shapeRow_reshapes (p : Pipeline) (row : Document) (hrow : (Fields.names row).Nodup)
    (hkeys : p.groupKeys.Nodup)
    (hcount : ∀ field, p.countField = some field → field ≠ "objectId" ∧ field ∉ p.groupKeys) :
    Reshaped p row (p.shapeRow row) := by
  have hshape : p.shapeRow row = withCount p.countField (p.withId row) := rfl
  have hapart : ((p.withId row).filter fun e => p.isApart e.1) = row.filter fun e => p.isApart e.1 :=
    filter_withId hkeys (fun _ => p.isApart_objectId) fun _ hkey _ => isApart_of_mem hkey
  rw [hshape]
  constructor
  case nodup =>
    rw [names_withCount]
    exact nodup_withId hkeys hrow
  case id =>
    rw [get?_withCount_of_ne fun hfield => (hcount _ hfield).1 rfl]
    exact get?_withId_objectId hkeys
  case parts =>
    intro key hkey hid
    rw [names_withCount]
    exact not_mem_names_withId hkeys hrow hkey hid
  case count =>
    intro field v n hfield hv hn
    have hcounted : p.isApart field = true := by simpa [isApart] using hcount field hfield
    rw [hfield, get?_withCount_self, get?_of_filter_eq hcounted hapart, hv, Option.map_some, countOf_eq hn]
  case names =>
    rw [names_withCount, ← Fields.names_filter, hapart, Fields.names_filter]
  case others =>
    rw [filter_withCount, filter_withId hkeys]
    · exact fun v => by simp [isApart_objectId]
    · exact fun key hkey v => by simp [isApart_of_mem hkey]
    · exact fun field hfield v => by simp [hfield]

/-- Days and months of which rows were counted. -/
def countedDays : Pipeline := { empty with countField := some "n", groupKeys := ["day", "month"] }

/-- A row without a month, with its count as a text. -/
def countedRow : Document := [("n", .string "12"), ("objectId", .int 7), ("day", .int 3), ("total", .null)]

theorem shapeRow_reshapes_days : Reshaped countedDays countedRow (countedDays.shapeRow countedRow) ∧
    countedDays.shapeRow countedRow =
      [("n", .int 12), ("objectId", .object [("day", .int 3), ("month", .null)]), ("total", .null)] := by
  refine ⟨shapeRow_reshapes countedDays countedRow (by decide) (by decide) fun field hfield => ?_, rfl⟩
  cases hfield
  decide

end Docstore.Query.Pipeline
