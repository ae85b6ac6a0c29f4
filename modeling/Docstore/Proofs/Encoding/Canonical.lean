import Docstore.Proofs.Geometry.Rings
import Docstore.Proofs.Json.Order
import Docstore.Proofs.Time.Iso

/-!
# Canonical values

The values of a field's type in the form in which they are read back. A column keeps them: what is encoded for it
is decoded to the same value, but for the order of fields (`exists_encodes`).
-/

namespace Docstore.Encoding

open Docstore.Geometry (IsPosition IsRing pairJson place)
open Docstore.Json (Number Same tagged)

/-! ## Canonical values -/

def dateFields (iso : String) : Document := [tagged "__type" "Date", tagged "iso" iso]

def pointerFields (target id : String) : Document :=
  [tagged "__type" "Pointer", tagged "className" target, tagged "objectId" id]

def fileFields (name : String) : Document := [tagged "__type" "File", tagged "name" name]

/-- The fields of a point at a latitude and a longitude. -/
def pointFields (p : Number × Number) : Document :=
  [tagged "__type" "GeoPoint", ("latitude", .number p.1), ("longitude", .number p.2)]

def polygonFields (ring : List (Number × Number)) : Document :=
  [tagged "__type" "Polygon", ("coordinates", .array (ring.map pairJson))]

/-- Whether a value has the form that the values of a type have. Relations have no values. -/
def Canonical : FieldType → Json → Prop
  | .string, v => ∃ s, v = .string s
  | .boolean, v => ∃ b, v = .bool b
  | .number, v => ∃ n : Number, n.IsCanonical ∧ v = .number n
  | .date, v => ∃ iso, Time.IsIso iso ∧ v.HasExactly (dateFields iso)
  | .pointer target, v => ∃ id, v.HasExactly (pointerFields target id)
  | .file, v => ∃ name, v.HasExactly (fileFields name)
  | .geoPoint, v => ∃ p, IsPosition p ∧ v.HasExactly (pointFields p)
  | .polygon, v => ∃ ring, IsRing ring ∧ v.HasExactly (polygonFields ring)
  | .arrayOf .string, v => ∃ items : List String, v = .array (items.map .string)
  | .array, v => ∃ items, v = .array items
  | .arrayOf _, v => ∃ items, v = .array items
  | .object, v => v.isObject = true
  | .bytes, v => v.isNull = false
  | .relation _, _ => False

/-! ## Through a column and back -/

/-- What a column holds for a value that it keeps. -/
structure Encodes (type : FieldType) (v : Json) (stored : Value) : Prop where
  encode : Encoding.encode type v = .ok stored
  same : Same (decode (some type) stored) v
  notNull : stored.isNull = false
  isDate : ∀ t, stored = .timestamp t → type = .date

variable {v : Json}

theorem date_string {iso : String} {t : Time.Instant} (h : Time.Instant.ofIso? iso = some t) :
    date (.string iso) = .ok t := by
  simp only [date, h]

/-- A typed value is read as its text. -/
theorem date_of_fields {iso : String} (h : v.HasExactly (dateFields iso)) : date v = date (.string iso) := by
  have hget := h.get? (show ["__type", "iso"].Nodup by decide)
  obtain ⟨fields, rfl, -⟩ := h
  have htag : (Json.object fields).typeTag? = some "Date" := by
    rw [Json.typeTag?, hget]
    rfl
  have hiso : ((Json.object fields).get? "iso").bind Json.text? = some iso := by
    rw [hget]
    rfl
  simp only [date, htag, hiso, if_true]

theorem date_of_hasExactly {iso : String} (hiso : Time.IsIso iso) (h : v.HasExactly (dateFields iso)) :
    ∃ t, date v = .ok t ∧ t.toIso = iso := by
  obtain ⟨t, ht, htext⟩ := hiso.toIso_ofIso?
  exact ⟨t, (date_of_fields h).trans (date_string ht), htext⟩

theorem encodes_date {iso : String} (hiso : Time.IsIso iso) (h : v.HasExactly (dateFields iso)) :
    ∃ t, t.toIso = iso ∧ Encodes .date v (.timestamp t) := by
  obtain ⟨t, ht, htext⟩ := date_of_hasExactly hiso h
  refine ⟨t, htext, ?_, ?_, rfl, fun _ _ => rfl⟩
  · simp only [Encoding.encode, h.isNull, ht, Bool.false_eq_true, if_false]
    rfl
  · have hsame := h.same
    rwa [← htext] at hsame

theorem encodes_pointer {target id : String} (h : v.HasExactly (pointerFields target id)) :
    Encodes (.pointer target) v (.string id) where
  encode := by
    have hid : v.get? "objectId" = some (.string id) :=
      h.get? (show ["__type", "className", "objectId"].Nodup by decide) "objectId"
    simp only [Encoding.encode, h.isNull, Bool.false_eq_true, if_false, textUnder, hid]
  same := h.same
  notNull := rfl
  isDate := fun t ht => by cases ht

theorem encodes_file {name : String} (h : v.HasExactly (fileFields name)) : Encodes .file v (.string name) where
  encode := by
    have hname : v.get? "name" = some (.string name) := h.get? (show ["__type", "name"].Nodup by decide) "name"
    simp only [Encoding.encode, h.isNull, Bool.false_eq_true, if_false, textUnder, hname]
  same := h.same
  notNull := rfl
  isDate := fun t ht => by cases ht

theorem encodes_number {n : Number} (h : n.IsCanonical) : Encodes .number (.number n) (.number n.double) where
  encode := by
    simp only [Encoding.encode, Json.isNull, Bool.false_eq_true, if_false, n.double?_number]
  same := by
    rw [decode, h.number_double]
    exact .refl _
  notNull := rfl
  isDate := fun t ht => by cases ht

theorem encodes_point {p : Number × Number} (hp : IsPosition p) (h : v.HasExactly (pointFields p)) :
    Encodes .geoPoint v (.point (place p)) where
  encode := by
    have hget := h.get? (show ["__type", "latitude", "longitude"].Nodup by decide)
    have hlatitude : (v.get? "latitude").bind Json.double? = some p.1.double := by
      rw [hget]
      exact p.1.double?_number
    have hlongitude : (v.get? "longitude").bind Json.double? = some p.2.double := by
      rw [hget]
      exact p.2.double?_number
    simp only [Encoding.encode, h.isNull, Bool.false_eq_true, if_false, Geometry.point, hlatitude, hlongitude,
      hp.pointAt]
    rfl
  same := by
    have hsame := h.same
    rwa [pointFields, ← hp.latitude.number_double, ← hp.longitude.number_double] at hsame
  notNull := rfl
  isDate := fun t ht => by cases ht

theorem encodes_polygon {ring : List (Number × Number)} (hring : IsRing ring)
    (h : v.HasExactly (polygonFields ring)) : Encodes .polygon v (.polygon (ring.map place)) where
  encode := by
    have hget := h.get? (show ["__type", "coordinates"].Nodup by decide)
    have hcoordinates : (v.get? "coordinates").getD v = .array (ring.map pairJson) := by
      rw [hget]
      rfl
    simp only [Encoding.encode, h.isNull, Bool.false_eq_true, if_false, hcoordinates,
      Geometry.polygon_of_isRing hring]
    rfl
  same := by
    have hpair : ∀ p ∈ ring, Json.array [number (place p).y, number (place p).x] = pairJson p := by
      intro p hp
      obtain ⟨hlatitude, hlongitude, -⟩ := hring.positions p hp
      rw [place, hlatitude.number_double, hlongitude.number_double, pairJson]
    have hsame := h.same
    rw [polygonFields, ← List.map_congr_left hpair] at hsame
    rw [decode, polygonJson, List.map_map]
    exact hsame
  notNull := rfl
  isDate := fun t ht => by cases ht

theorem encodes_strings (items : List String) :
    Encodes (.arrayOf .string) (.array (items.map .string)) (.strings items) where
  encode := by
    have hitems : (items.map Json.string).map itemText = items := by
      rw [List.map_map]
      exact List.map_id items
    simp only [Encoding.encode, Json.isNull, Bool.false_eq_true, if_false, hitems]
  same := .refl _
  notNull := rfl
  isDate := fun t ht => by cases ht

/-- Documents are kept as they are. -/
theorem encodes_document {type : FieldType} (h : ∀ v : Json, v.isNull = false → Encoding.encode type v = .ok (.json v))
    (hnull : v.isNull = false) : Encodes type v (.json v) where
  encode := h v hnull
  same := .refl _
  notNull := rfl
  isDate := fun t ht => by cases ht

/-- A column keeps the canonical values of its field's type. -/
theorem exists_encodes {type : FieldType} (h : Canonical type v) : ∃ stored, Encodes type v stored := by
  have hdocument (type : FieldType) (htype : ∀ v : Json, Encoding.encode type v =
      if v.isNull then .ok .null else .ok (.json v)) (hnull : v.isNull = false) :
      ∃ stored, Encodes type v stored := by
    refine ⟨_, encodes_document (fun w hw => ?_) hnull⟩
    rw [htype, hw]
    rfl
  cases type with
  | string =>
      obtain ⟨s, rfl⟩ := h
      exact ⟨.string s, rfl, .refl _, rfl, fun t ht => by cases ht⟩
  | boolean =>
      obtain ⟨b, rfl⟩ := h
      exact ⟨.bool b, rfl, .refl _, rfl, fun t ht => by cases ht⟩
  | number =>
      obtain ⟨n, hn, rfl⟩ := h
      exact ⟨_, encodes_number hn⟩
  | date =>
      obtain ⟨iso, hiso, h⟩ := h
      obtain ⟨t, -, ht⟩ := encodes_date hiso h
      exact ⟨_, ht⟩
  | pointer target =>
      obtain ⟨id, h⟩ := h
      exact ⟨_, encodes_pointer h⟩
  | file =>
      obtain ⟨name, h⟩ := h
      exact ⟨_, encodes_file h⟩
  | geoPoint =>
      obtain ⟨p, hp, h⟩ := h
      exact ⟨_, encodes_point hp h⟩
  | polygon =>
      obtain ⟨ring, hring, h⟩ := h
      exact ⟨_, encodes_polygon hring h⟩
  | array =>
      obtain ⟨items, rfl⟩ := h
      exact hdocument .array (fun v => rfl) rfl
  | object =>
      cases v with
      | object fields => exact hdocument .object (fun v => rfl) rfl
      | _ => cases h
  | bytes => exact hdocument .bytes (fun v => rfl) h
  | relation target => exact h.elim
  | arrayOf contents =>
      cases contents with
      | string =>
          obtain ⟨items, rfl⟩ := h
          exact ⟨_, encodes_strings items⟩
      | _ =>
          obtain ⟨items, rfl⟩ := h
          exact hdocument (.arrayOf _) (fun v => rfl) rfl

theorem isNull_of_canonical {type : FieldType} (h : Canonical type v) : v.isNull = false := by
  obtain ⟨stored, hencodes⟩ := exists_encodes h
  cases hnull : v.isNull with
  | false => rfl
  | true =>
      have hencode : Encoding.encode type v = .ok .null := by simp only [Encoding.encode, hnull, if_true]
      rw [hencodes.encode] at hencode
      cases hencode
      cases hencodes.notNull

end Docstore.Encoding
