import Docstore.Proofs.Write.RoundTrip

/-!
# Inserts and updates of the same entry

An insert looks at the type of a field first, an update at what the value says it is. They bind the same for a column
where the value is of the column's kind (`insert_update_agree`), and only there (`valuesFor_eq_iff`).
-/

namespace Docstore

open Docstore.Encoding (encode scalar? textUnder untyped)

/-- A boolean, a number or a string. -/
def Json.isScalar : Json → Bool
  | .bool _ | .number _ | .string _ => true
  | _ => false

namespace Write

/-! ## What is bound for a column -/

/-- The values that an insert binds for a column. -/
def Insert.valuesFor (i : Insert) (column : String) : List Value :=
  (i.cells.filter fun c => c.1 = column).flatMap fun c => c.2.template.values

/-- The values that an update binds for a column. -/
def Update.valuesFor (u : Update) (column : String) : List Value :=
  (u.assignments.filter fun a => a.column = column).flatMap fun a => a.template.values

namespace Assignment

variable {column : String}

@[simp] theorem values_set (v : Value) (cast : String) :
    (Assignment.mk column (.set v cast)).template.values = [v] := by
  simp [template, expression, Sql.named]

@[simp] theorem values_setPoint (p : Point) :
    (Assignment.mk column (.setPoint p)).template.values = [.number p.x, .number p.y] := by
  simp [template, expression, Sql.named, Sql.boundPoint, Sql.boundDouble]

@[simp] theorem values_merge_replacing (fields : Document) :
    (Assignment.mk column (.merge false [] [] fields)).template.values = [.json (.object fields)] := by
  simp [template, expression, Sql.named, emptyObject]

end Assignment

namespace Cell

@[simp] theorem values_value (v : Value) (cast : String) : (value v cast).template.values = [v] := by
  simp [template]

@[simp] theorem values_point (p : Point) : (point p).template.values = [.number p.x, .number p.y] := by
  simp [template, Sql.boundPoint, Sql.boundDouble]

end Cell

variable {schema : Schema} {f : String} {v : Json} {type : FieldType} {i : Insert} {u : Update}

/-! ## A single entry -/

theorem foldAuthData_singleton {provider : String} (h : authDataProvider? f = some provider) :
    foldAuthData [(f, v)] = [("authData", .object [(provider, v)])] := by
  simp [foldAuthData, h, foldProvider, Fields.get?, Fields.erase, Fields.insert, fieldsOf]

theorem foldAuthDataFirst_singleton {provider : String} (h : authDataProvider? f = some provider) :
    foldAuthDataFirst [(f, v)] = [("authData", .object [(provider, v)])] := by
  simp [foldAuthDataFirst, providersOf, h, Fields.ofPairs, Fields.insertAll, Fields.insert, Fields.erase,
    fieldsOf]

theorem foldAuthDataFirst_eq_self (h : authDataProvider? f = none) : foldAuthDataFirst [(f, v)] = [(f, v)] := by
  simp [foldAuthDataFirst, providersOf, h, Fields.ofPairs, Fields.insertAll]

theorem cellsOf_singleton {cells : Fields Cell} (h : cellsOf schema [(f, v)] = .ok cells) :
    ∃ c, cellOf schema f v = .ok c ∧ cells = (c.map (f, ·)).toList := by
  obtain ⟨c, hc, h⟩ := Result.bind_ok h
  cases h
  exact ⟨c, hc, List.append_nil _⟩

theorem assignmentsOf_singleton {whole : Document} {as : List Assignment}
    (h : assignmentsOf schema whole [(f, v)] = .ok as) :
    ∃ a, actionOf schema whole f v = .ok a ∧ as = (a.map (Assignment.mk f)).toList := by
  obtain ⟨a, ha, h⟩ := Result.bind_ok h
  cases h
  exact ⟨a, ha, List.append_nil _⟩

theorem insert_singleton (hdot : hasPoint f = false) (h : insert schema [(f, v)] = .ok i) :
    ∃ cells, cellsOf schema (foldAuthData [(f, v)]) = .ok cells ∧ i = .ofCells cells := by
  have hdots : expandDots [(f, v)] = [(f, v)] := expandDots_eq_self (by simpa using hdot)
  obtain ⟨-, -, h⟩ := Result.bind_ok h
  rw [hdots] at h
  obtain ⟨cells, hcells, h⟩ := Result.bind_ok h
  cases h
  exact ⟨cells, hcells, rfl⟩

theorem update_singleton (hdot : hasPoint f = false) (h : update schema [(f, v)] = .ok u) :
    ∃ as, assignmentsOf schema [(f, v)] (foldAuthDataFirst [(f, v)]) = .ok as ∧ u = ⟨as⟩ := by
  have hdots : expandDots [(f, v)] = [(f, v)] := expandDots_eq_self (by simpa using hdot)
  obtain ⟨as, has, rfl⟩ := Result.map_ok h
  rw [hdots] at has
  exact ⟨as, has, rfl⟩

/-! ## What each of them binds -/

/-- What an insert binds for a value of a field. -/
def inserted (type : FieldType) (v : Json) : Result (List Value) :=
  if type = .geoPoint then (Geometry.point v).map fun p => [.number p.x, .number p.y]
  else (encode type v).map fun stored => [stored]

/-- What an action binds, if there is one. -/
def Action.bound (column : String) (a : Option Action) : List Value :=
  (a.map fun a => (Assignment.mk column a).template.values).getD []

theorem cellOf_inserted (htype : schema.fieldType? f = some type) (hrelation : type.isRelation = false)
    (hnull : v.isNull = false) {c : Option Cell} (h : cellOf schema f v = .ok c) :
    inserted type v = .ok ((c.map fun c => c.template.values).getD []) := by
  rw [cellOf_declared htype hrelation hnull] at h
  rw [inserted]
  split at h
  · rename_i hpoint
    obtain ⟨p, hp, rfl⟩ := Result.map_ok h
    rw [if_pos hpoint, hp]
    simp [Except.map]
  · rename_i hpoint
    obtain ⟨stored, hstored, rfl⟩ := Result.map_ok h
    rw [if_neg hpoint, hstored]
    simp [Except.map]

theorem insert_valuesFor (hdot : hasPoint f = false) (hauth : authDataProvider? f = none)
    (htype : schema.fieldType? f = some type) (hrelation : type.isRelation = false) (hnull : v.isNull = false)
    (h : insert schema [(f, v)] = .ok i) : inserted type v = .ok (i.valuesFor f) := by
  obtain ⟨cells, hcells, rfl⟩ := insert_singleton hdot h
  rw [foldAuthData_eq_self (by simpa using hauth)] at hcells
  obtain ⟨c, hc, rfl⟩ := cellsOf_singleton hcells
  rw [cellOf_inserted htype hrelation hnull hc]
  rcases c with - | ⟨⟨⟩⟩
  all_goals simp [Insert.valuesFor, Insert.ofCells, Cell.isPoint]

theorem update_valuesFor (hdot : hasPoint f = false) (hauth : authDataProvider? f = none) (hname : f ≠ "authData")
    (htype : schema.fieldType? f = some type) (hnull : v.isNull = false) (hop : v.operation? = none)
    (h : update schema [(f, v)] = .ok u) :
    ∃ a, setAction [(f, v)] f (some type) v = .ok a ∧ u.valuesFor f = Action.bound f a := by
  obtain ⟨as, has, rfl⟩ := update_singleton hdot h
  rw [foldAuthDataFirst_eq_self hauth] at has
  obtain ⟨a, ha, rfl⟩ := assignmentsOf_singleton has
  unfold actionOf at ha
  rw [hnull, if_neg Bool.false_ne_true, if_neg hname, hop, htype] at ha
  refine ⟨a, ha, ?_⟩
  cases a <;> simp [Update.valuesFor, Action.bound]

/-! ## Values of a column's kind -/

/-- Whether a column keeps of a pointer or a file the text that stands for it, or the whole where there is none. -/
def KeepsReference (v : Json) : FieldType → Prop
  | .string | .number | .boolean => True
  | .pointer _ => v.typeTag? = some "Pointer" ∨ textUnder "objectId" v = untyped v
  | .file => v.typeTag? = some "File" ∨ textUnder "name" v = untyped v
  | .object | .bytes | .array | .arrayOf _ => scalar? v = none
  | .date | .geoPoint | .polygon | .relation _ => False

/-- Whether a value is of the kind of a field's column. -/
structure Suits (type : FieldType) (v : Json) : Prop where
  scalar : v.isScalar = true → type.column? ≠ some .jsonb
  date : v.typeTag? = some "Date" → type = .date
  point : v.typeTag? = some "GeoPoint" → type = .geoPoint
  polygon : v.typeTag? = some "Polygon" → type = .polygon
  reference : v.typeTag? = some "Pointer" ∨ v.typeTag? = some "File" → KeepsReference v type
  relation : v.typeTag? ≠ some "Relation"

variable {xs : List Value} {a : Option Action} {whole : Document}

theorem textUnder_of_get?_eq_none {key : String} (h : v.get? key = none) : textUnder key v = untyped v := by
  rw [textUnder, h]

/-- The text of a pointer stands under its id. -/
theorem textUnder_pointer (h : v.typeTag? = some "Pointer") : textUnder "objectId" v = untyped v := by
  rw [textUnder, untyped, scalar?, h]
  rcases v.get? "objectId" with - | (- | - | - | - | - | -) <;> rfl

theorem textUnder_file (h : v.typeTag? = some "File") : textUnder "name" v = untyped v := by
  rw [textUnder, untyped, scalar?, h]
  rcases v.get? "name" with - | (- | - | - | - | - | -) <;> rfl

/-- What is inserted where there is a value: all columns but points bind what the value is encoded to. -/
theorem inserted_ok (h : inserted type v = .ok xs) :
    (type = .geoPoint ∧ ∃ p, Geometry.point v = .ok p ∧ xs = [.number p.x, .number p.y]) ∨
      (type ≠ .geoPoint ∧ ∃ stored, encode type v = .ok stored ∧ xs = [stored]) := by
  rw [inserted] at h
  split at h
  · rename_i hpoint
    obtain ⟨p, hp, rfl⟩ := Result.map_ok h
    exact .inl ⟨hpoint, p, hp, rfl⟩
  · rename_i hpoint
    obtain ⟨stored, hstored, rfl⟩ := Result.map_ok h
    exact .inr ⟨hpoint, stored, hstored, rfl⟩

/-- A scalar is bound as it is, but for dates and numbers, which are read. -/
theorem setAction_scalar (hv : v.isScalar = true) :
    setAction whole f (some type) v =
      if type = .date ∨ type = .number then (encode type v).map fun stored => some (.set stored "")
      else .ok (some (.set (untyped v) "")) := by
  cases v with
  | null | array items | object fields => cases hv
  | bool b | number n | string s => cases type <;> rfl

theorem isNull_of_isScalar (hv : v.isScalar = true) : v.isNull = false := by
  cases v with
  | null => cases hv
  | _ => rfl

theorem get?_of_isScalar (hv : v.isScalar = true) (key : String) : v.get? key = none := by
  cases v with
  | object fields => cases hv
  | _ => rfl

/-- A scalar is inserted as it is, but for dates and numbers, unless the column is a document. -/
theorem encode_scalar (hv : v.isScalar = true) (hcolumn : type.column? ≠ some .jsonb) (hdate : type ≠ .date)
    (hnumber : type ≠ .number) {stored : Value} (h : encode type v = .ok stored) : stored = untyped v := by
  unfold encode at h
  rw [isNull_of_isScalar hv, if_neg Bool.false_ne_true] at h
  cases type with
  | date => exact absurd rfl hdate
  | number => exact absurd rfl hnumber
  | object | bytes | array => exact absurd rfl hcolumn
  | string | boolean => exact (Except.ok.inj h).symm
  | pointer target =>
      rw [← textUnder_of_get?_eq_none (get?_of_isScalar hv "objectId")]
      exact (Except.ok.inj h).symm
  | file =>
      rw [← textUnder_of_get?_eq_none (get?_of_isScalar hv "name")]
      exact (Except.ok.inj h).symm
  | geoPoint =>
      obtain ⟨p, hp, -⟩ := Result.map_ok h
      rw [Geometry.point, get?_of_isScalar hv] at hp
      cases hp
  | polygon =>
      obtain ⟨ring, hring, -⟩ := Result.map_ok h
      rw [get?_of_isScalar hv] at hring
      cases v with
      | null | array items | object fields => cases hv
      | bool b | number n | string s => cases hring
  | relation target => cases h
  | arrayOf contents =>
      cases contents with
      | string =>
          cases v with
          | null | array items | object fields => cases hv
          | bool b | number n | string s => cases h
      | _ => exact absurd rfl hcolumn

theorem agree_scalar (hv : v.isScalar = true) (hsuits : Suits type v) (hins : inserted type v = .ok xs)
    (hset : setAction whole f (some type) v = .ok a) : Action.bound f a = xs := by
  rw [setAction_scalar hv] at hset
  rcases inserted_ok hins with ⟨rfl, p, hp, -⟩ | ⟨-, stored, hstored, rfl⟩
  · rw [Geometry.point, get?_of_isScalar hv] at hp
    cases hp
  · split at hset
    · rw [hstored] at hset
      cases hset
      simp [Action.bound]
    · rename_i hread
      rw [not_or] at hread
      cases hset
      rw [encode_scalar hv (hsuits.scalar hv) hread.1 hread.2 hstored]
      simp [Action.bound]

/-- A list goes to a column of lists, as it is. -/
theorem agree_array {items : List Json} (hins : inserted type (.array items) = .ok xs)
    (hset : setAction whole f (some type) (.array items) = .ok a) : Action.bound f a = xs := by
  rcases inserted_ok hins with ⟨rfl, p, hp, -⟩ | ⟨-, stored, hstored, rfl⟩
  · cases hp
  · cases type with
    | array =>
        cases hset
        cases hstored
        simp [Action.bound]
    | arrayOf contents =>
        cases contents with
        | _ =>
            cases hset
            cases hstored
            simp [Action.bound]
    | _ => cases hset

/-! ## Objects -/

theorem cut?_eq_none {sep : Char} {cs : List Char} (h : sep ∉ cs) : Text.cut? sep cs = none := by
  induction cs with
  | nil => rfl
  | cons c cs ih =>
      rw [List.mem_cons, not_or] at h
      rw [Text.cut?, if_neg (Ne.symm h.1), ih h.2]
      rfl

theorem cutKey?_eq_none (h : hasPoint f = false) : cutKey? f = none := by
  rw [cutKey?, cut?_eq_none]
  · rfl
  · simpa [hasPoint] using h

/-- Without keys with points an object replaces the stored one. -/
theorem mergeAction_singleton (hdot : hasPoint f = false) (fields : Document) :
    mergeAction [(f, v)] f fields = .merge false [] [] fields := by
  simp [mergeAction, nestedOperations, cutKey?_eq_none hdot]

/-- What is inserted of a pointer or a file where the column keeps the text that stands for it. -/
theorem encode_reference (hobject : v.isObject = true) (hkeeps : KeepsReference v type) {stored : Value}
    (h : encode type v = .ok stored) : stored = untyped v := by
  cases v with
  | null | bool b | number n | string s | array items => cases hobject
  | object fields =>
      cases type with
      | string | number | boolean => exact (Except.ok.inj h).symm
      | pointer target =>
          rw [← hkeeps.elim textUnder_pointer id]
          exact (Except.ok.inj h).symm
      | file =>
          rw [← hkeeps.elim textUnder_file id]
          exact (Except.ok.inj h).symm
      | object | bytes | array =>
          rw [untyped, show scalar? (.object fields) = none from hkeeps]
          exact (Except.ok.inj h).symm
      | arrayOf contents =>
          cases contents with
          | string => cases h
          | _ =>
              rw [untyped, show scalar? (.object fields) = none from hkeeps]
              exact (Except.ok.inj h).symm
      | date | geoPoint | polygon | relation target => exact hkeeps.elim

/-- The tags by which an update tells what to set a column to. -/
def dispatched : List (Option String) :=
  [some "Pointer", some "File", some "Date", some "GeoPoint", some "Polygon", some "Relation"]

/-- What an update binds for an object: its tag decides, and the column's type only where there is none. -/
inductive Sets (type : FieldType) (v : Json) : List Value → Prop
  | reference (htag : v.typeTag? = some "Pointer" ∨ v.typeTag? = some "File") : Sets type v [untyped v]
  | date (htag : v.typeTag? = some "Date") {t : Time.Instant} (h : Encoding.date v = .ok t) :
      Sets type v [.timestamp t]
  | point (htag : v.typeTag? = some "GeoPoint") {p : Point} (h : Geometry.point v = .ok p) :
      Sets type v [.number p.x, .number p.y]
  | polygon (htag : v.typeTag? = some "Polygon") {ring : List Point}
      (h : Geometry.polygon ((v.get? "coordinates").getD .null) = .ok ring) : Sets type v [.polygon ring]
  | relation (htag : v.typeTag? = some "Relation") : Sets type v []
  | whole (htag : v.typeTag? ∉ dispatched) (htype : type = .object ∨ type = .bytes) : Sets type v [.json v]

theorem setAction_object {fields : Document} (hdot : hasPoint f = false)
    (hset : setAction [(f, .object fields)] f (some type) (.object fields) = .ok a) :
    Sets type (.object fields) (Action.bound f a) := by
  simp only [setAction] at hset
  split at hset
  case h_1 htag =>
    cases hset
    simpa [Action.bound] using Sets.reference (.inl htag)
  case h_2 htag =>
    cases hset
    simpa [Action.bound] using Sets.reference (.inr htag)
  case h_3 htag =>
    obtain ⟨t, ht, rfl⟩ := Result.map_ok hset
    simpa [Action.bound] using Sets.date htag ht
  case h_4 htag =>
    obtain ⟨p, hp, rfl⟩ := Result.map_ok hset
    simpa [Action.bound] using Sets.point htag hp
  case h_5 htag =>
    obtain ⟨ring, hring, rfl⟩ := Result.map_ok hset
    simpa [Action.bound] using Sets.polygon htag hring
  case h_6 htag =>
    cases hset
    exact .relation htag
  case h_7 htag =>
    have hother : (Json.object fields).typeTag? ∉ dispatched := by
      rw [htag]
      decide
    split at hset
    · rename_i htype
      cases hset
      simpa [Action.bound] using Sets.whole hother (.inr (Option.some.inj htype))
    · split at hset
      · rename_i htype
        cases hset
        simpa [Action.bound, mergeAction_singleton hdot] using Sets.whole hother (.inl (Option.some.inj htype))
      · cases hset
  case h_8 hpointer hfile hdate hpoint hpolygon hrelation _ =>
    have hother : (Json.object fields).typeTag? ∉ dispatched := by
      simpa [dispatched] using ⟨hpointer, hfile, hdate, hpoint, hpolygon, hrelation⟩
    split at hset
    · rename_i htype
      cases hset
      simpa [Action.bound, mergeAction_singleton hdot] using Sets.whole hother (.inl (Option.some.inj htype))
    · cases hset

theorem agree_object {ys : List Value} (hobject : v.isObject = true) (hsuits : Suits type v)
    (hins : inserted type v = .ok xs) (hsets : Sets type v ys) : ys = xs := by
  obtain ⟨fields, rfl⟩ : ∃ fields, v = .object fields := by
    cases v with
    | object fields => exact ⟨fields, rfl⟩
    | _ => cases hobject
  cases hsets with
  | reference htag =>
      have hkeeps := hsuits.reference htag
      rcases inserted_ok hins with ⟨rfl, -, -⟩ | ⟨-, stored, hstored, rfl⟩
      · exact hkeeps.elim
      · rw [encode_reference hobject hkeeps hstored]
  | @date htag t h =>
      obtain rfl := hsuits.date htag
      have hinserted : inserted .date (.object fields) = .ok [.timestamp t] := by
        have hencode : encode .date (.object fields) = (Encoding.date (.object fields)).map .timestamp := rfl
        rw [inserted, if_neg (by decide), hencode, h]
        rfl
      rw [hinserted] at hins
      exact Except.ok.inj hins
  | @point htag p h =>
      obtain rfl := hsuits.point htag
      rw [inserted, if_pos rfl, h] at hins
      exact Except.ok.inj hins
  | @polygon htag ring h =>
      obtain rfl := hsuits.polygon htag
      have hinserted : inserted .polygon (.object fields) = .ok [.polygon ring] := by
        have hencode : encode .polygon (.object fields) =
            (Geometry.polygon (((Json.object fields).get? "coordinates").getD (.object fields))).map .polygon := rfl
        rw [inserted, if_neg (by decide), hencode]
        cases hcoordinates : (Json.object fields).get? "coordinates" with
        | none =>
            -- An update does not read the value itself as a ring, so it has failed.
            rw [hcoordinates] at h
            cases h
        | some coordinates =>
            rw [hcoordinates] at h
            rw [Option.getD_some] at h ⊢
            rw [h]
            rfl
      rw [hinserted] at hins
      exact Except.ok.inj hins
  | relation htag => exact absurd htag hsuits.relation
  | whole htag htype =>
      rcases htype with rfl | rfl
      all_goals exact Except.ok.inj hins

/-- Columns of documents hold any value as it is. -/
theorem encode_document (hcolumn : type.column? = some .jsonb) (hnull : v.isNull = false) :
    encode type v = .ok (.json v) := by
  unfold encode
  rw [hnull, if_neg Bool.false_ne_true]
  cases type with
  | object | bytes | array => rfl
  | arrayOf contents =>
      cases contents with
      | string => cases hcolumn
      | _ => rfl
  | _ => cases hcolumn

/-! ## Agreement -/

theorem inserted_bound (hdot : hasPoint f = false) (hnull : v.isNull = false) (hsuits : Suits type v)
    (hins : inserted type v = .ok xs) (hset : setAction [(f, v)] f (some type) v = .ok a) :
    Action.bound f a = xs := by
  cases v with
  | null => cases hnull
  | bool b | number n | string s => exact agree_scalar rfl hsuits hins hset
  | array items => exact agree_array hins hset
  | object fields => exact agree_object rfl hsuits hins (setAction_object hdot hset)

/-- Auth data is no column of its own field. -/
theorem insert_valuesFor_authData {provider : String} (hdot : hasPoint f = false) (hname : f ≠ "authData")
    (hauth : authDataProvider? f = some provider) (h : insert schema [(f, v)] = .ok i) : i.valuesFor f = [] := by
  obtain ⟨cells, hcells, rfl⟩ := insert_singleton hdot h
  rw [foldAuthData_singleton hauth] at hcells
  obtain ⟨c, -, rfl⟩ := cellsOf_singleton hcells
  rcases c with - | ⟨⟨⟩⟩
  all_goals simp [Insert.valuesFor, Insert.ofCells, Cell.isPoint, hname.symm]

theorem update_valuesFor_authData {provider : String} (hdot : hasPoint f = false) (hname : f ≠ "authData")
    (hauth : authDataProvider? f = some provider) (h : update schema [(f, v)] = .ok u) : u.valuesFor f = [] := by
  obtain ⟨as, has, rfl⟩ := update_singleton hdot h
  rw [foldAuthDataFirst_singleton hauth] at has
  obtain ⟨a, -, rfl⟩ := assignmentsOf_singleton has
  cases a <;> simp [Update.valuesFor, hname.symm]

/-- A scalar in a column of documents is inserted as a document, and updated as it is. -/
theorem bound_scalar (hv : v.isScalar = true) (hcolumn : type.column? = some .jsonb)
    (hins : inserted type v = .ok xs) (hset : setAction whole f (some type) v = .ok a) :
    xs = [.json v] ∧ Action.bound f a = [untyped v] := by
  rw [setAction_scalar hv, if_neg (by rintro (rfl | rfl) <;> cases hcolumn)] at hset
  cases hset
  refine ⟨?_, by simp [Action.bound]⟩
  rcases inserted_ok hins with ⟨rfl, -, -⟩ | ⟨-, stored, hstored, rfl⟩
  · cases hcolumn
  · rw [encode_document hcolumn (isNull_of_isScalar hv)] at hstored
    cases hstored
    rfl

/-! ### Only values of the column's kind -/

/-- An object as it is bound where nothing is known: as the text that stands for it, if there is one. -/
theorem untyped_object (fields : Document) :
    (∃ s, untyped (.object fields) = .string s) ∨
      scalar? (.object fields) = none ∧ untyped (.object fields) = .json (.object fields) := by
  rw [untyped]
  cases hscalar : scalar? (.object fields) with
  | some s => exact .inl ⟨s, rfl⟩
  | none => exact .inr ⟨rfl, rfl⟩

theorem keepsReference_of_encode {fields : Document}
    (h : encode type (.object fields) = .ok (untyped (.object fields))) : KeepsReference (.object fields) type := by
  have hnone : encode type (.object fields) = .ok (.json (.object fields)) → scalar? (.object fields) = none := by
    intro hjson
    rw [h] at hjson
    rcases untyped_object fields with ⟨s, hs⟩ | ⟨hscalar, -⟩
    · rw [hs] at hjson
      cases hjson
    · exact hscalar
  cases type with
  | string | number | boolean => trivial
  | pointer target => exact .inr (Except.ok.inj h)
  | file => exact .inr (Except.ok.inj h)
  | object | bytes | array => exact hnone rfl
  | arrayOf contents =>
      cases contents with
      | string => cases h
      | _ => exact hnone rfl
  | relation target => cases h
  | date | geoPoint | polygon =>
      obtain ⟨x, -, hx⟩ := Result.map_ok h
      rcases untyped_object fields with ⟨s, hs⟩ | ⟨-, hs⟩
      all_goals
        rw [hs] at hx
        cases hx

/-- An object is held as a text or as it is, but by the columns of dates, points and polygons. -/
theorem encode_object_cases {fields : Document} {stored : Value} (h : encode type (.object fields) = .ok stored) :
    (∃ s, stored = .string s) ∨ stored = .json (.object fields) ∨ (type = .date ∧ ∃ t, stored = .timestamp t) ∨
      (type = .geoPoint ∧ ∃ p, stored = .point p) ∨ (type = .polygon ∧ ∃ ring, stored = .polygon ring) := by
  have hplain (h : stored = untyped (.object fields)) : (∃ s, stored = .string s) ∨ stored = .json (.object fields) :=
    h ▸ (untyped_object fields).imp id And.right
  have htext (key : String) (h : stored = textUnder key (.object fields)) :
      (∃ s, stored = .string s) ∨ stored = .json (.object fields) := by
    rw [textUnder] at h
    split at h
    · exact .inl ⟨_, h⟩
    · exact hplain h
  cases type with
  | string | number | boolean => exact (hplain (Except.ok.inj h).symm).imp id .inl
  | pointer target => exact (htext "objectId" (Except.ok.inj h).symm).imp id .inl
  | file => exact (htext "name" (Except.ok.inj h).symm).imp id .inl
  | object | bytes | array => exact .inr (.inl (Except.ok.inj h).symm)
  | arrayOf contents =>
      cases contents with
      | string => cases h
      | _ => exact .inr (.inl (Except.ok.inj h).symm)
  | relation target => cases h
  | date =>
      obtain ⟨t, -, rfl⟩ := Result.map_ok h
      exact .inr (.inr (.inl ⟨rfl, t, rfl⟩))
  | geoPoint =>
      obtain ⟨p, -, rfl⟩ := Result.map_ok h
      exact .inr (.inr (.inr (.inl ⟨rfl, p, rfl⟩)))
  | polygon =>
      obtain ⟨ring, -, rfl⟩ := Result.map_ok h
      exact .inr (.inr (.inr (.inr ⟨rfl, ring, rfl⟩)))

theorem suits_of_sets {fields : Document} (hins : inserted type (.object fields) = .ok xs)
    (hsets : Sets type (.object fields) xs) : Suits type (.object fields) := by
  have hins' := inserted_ok hins
  cases hsets with
  | reference htag =>
      have hkeeps : KeepsReference (.object fields) type := by
        rcases hins' with ⟨-, p, -, hp⟩ | ⟨-, stored, hstored, hxs⟩
        · exact absurd (congrArg List.length hp) (by simp)
        · rw [← List.cons.inj hxs |>.1] at hstored
          exact keepsReference_of_encode hstored
      rcases htag with htag | htag
      all_goals constructor <;> simp [htag, hkeeps, Json.isScalar]
  | @date htag t h =>
      have htype : type = .date := by
        rcases hins' with ⟨-, p, -, hp⟩ | ⟨-, stored, hstored, hxs⟩
        · cases hp
        · cases hxs
          simpa using encode_object_cases hstored
      constructor <;> simp [htag, htype, Json.isScalar]
  | @point htag p h =>
      have htype : type = .geoPoint := by
        rcases hins' with ⟨htype, -⟩ | ⟨-, stored, hstored, hxs⟩
        · exact htype
        · cases hxs
      constructor <;> simp [htag, htype, Json.isScalar]
  | @polygon htag ring h =>
      have htype : type = .polygon := by
        rcases hins' with ⟨-, p, -, hp⟩ | ⟨-, stored, hstored, hxs⟩
        · cases hp
        · cases hxs
          simpa using encode_object_cases hstored
      constructor <;> simp [htag, htype, Json.isScalar]
  | relation htag =>
      rcases hins' with ⟨-, p, -, hp⟩ | ⟨-, stored, -, hxs⟩
      · cases hp
      · cases hxs
  | whole htag htype =>
      simp only [dispatched, List.mem_cons, List.not_mem_nil, or_false, not_or] at htag
      constructor <;> simp [htag, Json.isScalar]

theorem untyped_ne_json (hv : v.isScalar = true) (w : Json) : untyped v ≠ .json w := by
  cases v with
  | null | array items | object fields => cases hv
  | bool b => exact fun h => nomatch h
  | string s => exact fun h => nomatch h
  | number n =>
      cases n with
      | float x => exact fun h => nomatch h
      | integer i =>
          show (if inInt64 i then Value.integer i else .number (Double.ofInt i)) ≠ .json w
          split
          · exact fun h => nomatch h
          · exact fun h => nomatch h

theorem Suits.of_untagged (htag : v.typeTag? = none) (hscalar : v.isScalar = true → type.column? ≠ some .jsonb) :
    Suits type v := by
  refine ⟨hscalar, ?_, ?_, ?_, ?_, ?_⟩
  all_goals simp [htag]

theorem suits_of_bound (hdot : hasPoint f = false) (hnull : v.isNull = false) (hins : inserted type v = .ok xs)
    (hset : setAction [(f, v)] f (some type) v = .ok a) (h : Action.bound f a = xs) : Suits type v := by
  have hscalar (hv : v.isScalar = true) : type.column? ≠ some .jsonb := by
    intro hcolumn
    obtain ⟨hxs, hbound⟩ := bound_scalar hv hcolumn hins hset
    rw [h, hxs] at hbound
    exact untyped_ne_json hv v (List.cons.inj hbound).1.symm
  cases v with
  | null => cases hnull
  | object fields => exact suits_of_sets hins (h ▸ setAction_object hdot hset)
  | bool b | number n | string s | array items => exact .of_untagged rfl hscalar

/-! ### Statements -/

/-- An insert and an update bind the same for a column exactly where the value is of the column's kind. -/
theorem valuesFor_eq_iff (hdot : hasPoint f = false) (hname : f ≠ "authData") (hauth : authDataProvider? f = none)
    (htype : schema.fieldType? f = some type) (hrelation : type.isRelation = false) (hnull : v.isNull = false)
    (hop : v.operation? = none) (hinsert : insert schema [(f, v)] = .ok i) (hupdate : update schema [(f, v)] = .ok u) :
    i.valuesFor f = u.valuesFor f ↔ Suits type v := by
  have hins := insert_valuesFor hdot hauth htype hrelation hnull hinsert
  obtain ⟨a, hset, hbound⟩ := update_valuesFor hdot hauth hname htype hnull hop hupdate
  rw [hbound]
  exact ⟨fun h => suits_of_bound hdot hnull hins hset h.symm,
    fun hsuits => (inserted_bound hdot hnull hsuits hins hset).symm⟩

/--
An insert and an update of a value of the column's kind bind the same for the column. A boolean, number or string in
a column of documents is bound as a document by the insert, and as it is by the update.
-/
theorem insert_update_agree (hdot : hasPoint f = false) (hname : f ≠ "authData")
    (htype : schema.fieldType? f = some type) (hrelation : type.isRelation = false) (hnull : v.isNull = false)
    (hop : v.operation? = none) (hinsert : insert schema [(f, v)] = .ok i) (hupdate : update schema [(f, v)] = .ok u) :
    (Suits type v → i.valuesFor f = u.valuesFor f) ∧
      (v.isScalar = true → type.column? = some .jsonb → authDataProvider? f = none →
        i.valuesFor f = [.json v] ∧ u.valuesFor f = [untyped v]) := by
  cases hauth : authDataProvider? f with
  | some provider =>
      rw [insert_valuesFor_authData hdot hname hauth hinsert, update_valuesFor_authData hdot hname hauth hupdate]
      exact ⟨fun _ => rfl, fun _ _ h => nomatch h⟩
  | none =>
      refine ⟨(valuesFor_eq_iff hdot hname hauth htype hrelation hnull hop hinsert hupdate).mpr, fun hv hcolumn _ => ?_⟩
      obtain ⟨a, hset, hbound⟩ := update_valuesFor hdot hauth hname htype hnull hop hupdate
      rw [hbound]
      exact bound_scalar hv hcolumn (insert_valuesFor hdot hauth htype hrelation hnull hinsert) hset

/-- Posts with an author and anything else. -/
def notes : Schema := ⟨"Post", [("author", .ofType (.pointer "_User")), ("meta", .ofType .object)], none, []⟩

def userPointer : Json :=
  .object [Json.tagged "__type" "Pointer", Json.tagged "className" "_User", Json.tagged "objectId" "u1"]

/-- A pointer in a column of pointers is the text of its id for both. -/
theorem insert_update_agree_author : ∃ i u, insert notes [("author", userPointer)] = .ok i ∧
    update notes [("author", userPointer)] = .ok u ∧ i.valuesFor "author" = [.string "u1"] ∧
    i.valuesFor "author" = u.valuesFor "author" := by
  have hsuits : Suits (.pointer "_User") userPointer := by
    refine ⟨(fun h => nomatch h), ?_, ?_, ?_, (fun _ => .inl rfl), ?_⟩
    all_goals decide
  obtain ⟨i, hi, hvalues⟩ : ∃ i, insert notes [("author", userPointer)] = .ok i ∧
      i.valuesFor "author" = [.string "u1"] := ⟨_, rfl, rfl⟩
  obtain ⟨u, hu⟩ : ∃ u, update notes [("author", userPointer)] = .ok u := ⟨_, rfl⟩
  exact ⟨i, u, hi, hu, hvalues, (insert_update_agree (by decide) (by decide) rfl rfl rfl rfl hi hu).1 hsuits⟩

/-- In a column of documents a number is inserted as a document, but updated as the number. -/
theorem insert_update_differ : ∃ i u, insert notes [("meta", .int 3)] = .ok i ∧
    update notes [("meta", .int 3)] = .ok u ∧ i.valuesFor "meta" = [.json (.int 3)] ∧
    u.valuesFor "meta" = [.integer 3] :=
  ⟨_, _, rfl, rfl, rfl, rfl⟩

end Write

end Docstore
