import Docstore.Proofs.Encoding.Dates
import Docstore.Proofs.Geometry.Polygons

/-!
# Values through columns and back

Encoding and decoding undo each other. A value in the form of its field's type comes back from the column as it was, but
for the order of fields. A column's value that came from any value of a document comes back from the document, but for
the sign of a zero. Main statement: `columns_round_trip`.
-/

namespace Docstore

/-! ## Points and rings -/

namespace Geometry

variable {p : Point}

theorem Lies.exists_pointAt (h : Lies p) : ∃ latitude longitude q,
    (Encoding.number p.y).double? = some latitude ∧ (Encoding.number p.x).double? = some longitude ∧
      pointAt latitude longitude = .ok q ∧ q.eq p = true := by
  obtain ⟨latitude, hlatitude, hy⟩ := Encoding.exists_double?_number (Double.isFinite_of_between (by decide) h.1)
  obtain ⟨longitude, hlongitude, hx⟩ := Encoding.exists_double?_number (Double.isFinite_of_between (by decide) h.2)
  refine ⟨latitude, longitude, ⟨longitude, latitude⟩, hlatitude, hlongitude, pointAt_eq_ok_iff.mpr ⟨⟨?_, ?_⟩, rfl⟩,
    Point.eq_iff.mpr ⟨hx, hy⟩⟩
  · exact (Double.between_congr hy _ _).trans h.1
  · exact (Double.between_congr hx _ _).trans h.2

/-- Points at the same places, one after the other. -/
def SamePlaces : List Point → List Point → Prop := List.Forall₂ fun p q => p.eq q = true

variable {ps qs : List Point}

theorem SamePlaces.exists_mem (h : SamePlaces ps qs) : ∀ q ∈ qs, ∃ p ∈ ps, p.eq q = true := by
  induction h with
  | nil => exact List.forall_mem_nil _
  | @cons p q ps qs hp _ ih =>
      exact List.forall_mem_cons.mpr ⟨⟨p, .head _, hp⟩, fun r hr => (ih r hr).imp fun _ h => ⟨.tail _ h.1, h.2⟩⟩

theorem SamePlaces.eq_self (h : SamePlaces ps qs) : ∀ p ∈ ps, p.eq p = true := by
  have hself : List.Forall₂ (fun p q => p.eq p = true ∧ p.eq q = true) ps qs :=
    h.imp fun _ _ heq => ⟨Point.eq_trans heq (Point.eq_symm heq), heq⟩
  exact ((List.forall₂_and_left ps qs).mp hself).1

theorem SamePlaces.head? {q : Point} (h : SamePlaces ps qs) (hq : qs.head? = some q) :
    ∃ p, ps.head? = some p ∧ p.eq q = true := by
  cases h with
  | nil => cases hq
  | cons hp _ =>
      cases hq
      exact ⟨_, rfl, hp⟩

theorem SamePlaces.getLast? {q : Point} (h : SamePlaces ps qs) (hq : qs.getLast? = some q) :
    ∃ p, ps.getLast? = some p ∧ p.eq q = true := by
  rw [← List.head?_reverse] at hq ⊢
  exact SamePlaces.head? (List.forall₂_reverse_iff.mpr h) hq

/-- A closed ring is read as it is when its points are written anew. -/
theorem SamePlaces.closeRing (h : SamePlaces ps qs) (hthree : HasThree qs) {first last : Point}
    (hfirst : qs.head? = some first) (hlast : qs.getLast? = some last) (hclosed : first.eq last = true) :
    closeRing ps = .ok ps := by
  obtain ⟨p, hp, hpfirst⟩ := h.head? hfirst
  obtain ⟨q, hq, hqlast⟩ := h.getLast? hlast
  have heq : p.eq q = true := (Point.eq_congr hpfirst hqlast).trans hclosed
  rw [closeRing_of_hasThree h.eq_self (hthree.of_places h.exists_mem), closed_eq hp hq, if_pos heq, List.append_nil]

end Geometry

namespace Encoding

open Docstore.Geometry (HasThree Lies SamePlaces)
open Docstore.Json (Same tagged)

/-! ## Forms -/

/-- The forms of values that come back as they were: the canonical ones, and those that a column keeps as documents. -/
def InForm : FieldType → Json → Prop
  | .pointer target, v => ∃ id, v.HasExactly
      [tagged "__type" "Pointer", tagged "className" target, ("objectId", id)]
  | .file, v => ∃ name, v.HasExactly [tagged "__type" "File", ("name", name)]
  | .arrayOf .string, v => ∃ items : List String, v = .array (items.map .string)
  | .array, _ | .arrayOf _, _ | .object, _ | .bytes, _ => True
  | type, v => Canonical type v

/-- The values of a column that come back as they were, if a document's value was encoded as them. -/
def Restorable : FieldType → Value → Prop
  | .date, .timestamp t => 0 ≤ t.date.year ∧ t.date.year < 10000 ∧ t.isLeap = false ∧ t.nanos % 1000000 = 0
  | .pointer _, .string _ | .file, .string _ => True
  | .geoPoint, _ | .polygon, _ | .array, _ | .arrayOf _, _ | .object, _ | .bytes, _ => True
  | _, _ => False

/-- The same value of a column, but for the signs of zeros in points. -/
def SameValue : Value → Value → Prop
  | .point p, .point q => p.eq q = true
  | .polygon ps, .polygon qs => SamePlaces ps qs
  | v, w => v = w

variable {v : Json}

/-! ## From documents and back -/

/-- A value that is stored as it is comes back as it is. -/
theorem decode_kept {type : FieldType} (h : ∀ v : Json, encode type v = if v.isNull then .ok .null else .ok (.json v))
    (v : Json) : ∃ stored, encode type v = .ok stored ∧ decode (some type) stored = v := by
  rw [h]
  cases v <;> exact ⟨_, rfl, rfl⟩

/-- A reference without a text where its name stands is stored as it is. -/
theorem textUnder_of_object {fields : Document} {tag key : String}
    (hreference : (tag, key) ∈ [("Pointer", "objectId"), ("File", "name")])
    (htag : (Json.object fields).typeTag? = some tag) (hkey : ((Json.object fields).get? key).bind Json.text? = none) :
    textUnder key (.object fields) = .json (.object fields) := by
  have hscalar : scalar? (.object fields) = none := by
    simp only [List.mem_cons, Prod.mk.injEq, List.not_mem_nil, or_false] at hreference
    rcases hreference with ⟨rfl, rfl⟩ | ⟨rfl, rfl⟩ <;> simpa only [scalar?, htag] using hkey
  unfold textUnder
  split
  · rename_i s hs
    rw [hs] at hkey
    cases hkey
  · rw [untyped, hscalar]
    rfl

theorem exists_decode_pointer {target : String} {id : Json}
    (h : v.HasExactly [tagged "__type" "Pointer", tagged "className" target, ("objectId", id)]) :
    ∃ stored, encode (.pointer target) v = .ok stored ∧ Same (decode (some (.pointer target)) stored) v := by
  have hget := h.get? (show ["__type", "className", "objectId"].Nodup by decide)
  cases id with
  | string id => exact ⟨_, (encodes_pointer h).encode, (encodes_pointer h).same⟩
  | _ =>
      obtain ⟨fields, rfl, -⟩ := h
      have hid : ((Json.object fields).get? "objectId").bind Json.text? = none := by
        rw [hget]
        rfl
      have htag : (Json.object fields).typeTag? = some "Pointer" := by
        rw [Json.typeTag?, hget]
        rfl
      exact ⟨_, congrArg Except.ok (textUnder_of_object (.head _) htag hid), .refl _⟩

theorem exists_decode_file {name : Json} (h : v.HasExactly [tagged "__type" "File", ("name", name)]) :
    ∃ stored, encode .file v = .ok stored ∧ Same (decode (some .file) stored) v := by
  have hget := h.get? (show ["__type", "name"].Nodup by decide)
  cases name with
  | string name => exact ⟨_, (encodes_file h).encode, (encodes_file h).same⟩
  | _ =>
      obtain ⟨fields, rfl, -⟩ := h
      have hname : ((Json.object fields).get? "name").bind Json.text? = none := by
        rw [hget]
        rfl
      have htag : (Json.object fields).typeTag? = some "File" := by
        rw [Json.typeTag?, hget]
        rfl
      exact ⟨_, congrArg Except.ok (textUnder_of_object (.tail _ (.head _)) htag hname), .refl _⟩

theorem exists_decode {type : FieldType} (h : InForm type v) :
    ∃ stored, encode type v = .ok stored ∧ Same (decode (some type) stored) v := by
  have hcanonical (hv : Canonical type v) :
      ∃ stored, encode type v = .ok stored ∧ Same (decode (some type) stored) v := by
    obtain ⟨stored, hstored⟩ := exists_encodes hv
    exact ⟨stored, hstored.encode, hstored.same⟩
  have hkept (htype : ∀ v : Json, encode type v = if v.isNull then .ok .null else .ok (.json v)) :
      ∃ stored, encode type v = .ok stored ∧ Same (decode (some type) stored) v := by
    obtain ⟨stored, hstored, heq⟩ := decode_kept htype v
    exact ⟨stored, hstored, heq ▸ .refl _⟩
  cases type with
  | pointer target =>
      obtain ⟨id, h⟩ := h
      exact exists_decode_pointer h
  | file =>
      obtain ⟨name, h⟩ := h
      exact exists_decode_file h
  | arrayOf contents =>
      cases contents with
      | string => exact hcanonical h
      | _ => exact hkept fun _ => rfl
  | array => exact hkept fun _ => rfl
  | object => exact hkept fun _ => rfl
  | bytes => exact hkept fun _ => rfl
  | _ => exact hcanonical h

/-! ## From columns and back -/

theorem encode_date {t : Time.Instant} (hyear : 0 ≤ t.date.year ∧ t.date.year < 10000) (hleap : t.isLeap = false)
    (hmillis : t.nanos % 1000000 = 0) : encode .date (dateJson t) = .ok (.timestamp t) := by
  have hmillis' : t.toMillis = t := by
    obtain ⟨seconds, nanos⟩ := t
    rw [Time.Instant.toMillis, Nat.div_mul_cancel (Nat.dvd_of_mod_eq_zero hmillis)]
  have hfields : (dateJson t).HasExactly (dateFields t.toIso) := ⟨_, rfl, .refl _⟩
  have hread := (date_of_fields hfields).trans (date_string (Time.Instant.ofIso?_toIso hyear hleap))
  rw [hmillis'] at hread
  simp only [encode, hfields.isNull, hread, Bool.false_eq_true, if_false]
  rfl

theorem exists_encode_point {p : Point} (h : Lies p) :
    ∃ q, encode .geoPoint (pointJson p) = .ok (.point q) ∧ q.eq p = true := by
  obtain ⟨latitude, longitude, q, hlatitude, hlongitude, hq, heq⟩ := h.exists_pointAt
  have hlatitude' : ((pointJson p).get? "latitude").bind Json.double? = some latitude := hlatitude
  have hlongitude' : ((pointJson p).get? "longitude").bind Json.double? = some longitude := hlongitude
  have hpoint : Geometry.point (pointJson p) = .ok q := by rw [Geometry.point, hlatitude', hlongitude', ← hq]
  exact ⟨q, congrArg (Except.map Value.point) hpoint, heq⟩

/-- The pair that a point is written as. -/
def vertexJson (p : Point) : Json := .array [number p.y, number p.x]

theorem exists_vertices {ring : List Point} (h : ∀ p ∈ ring, Lies p) :
    ∃ again, (ring.map vertexJson).mapM Geometry.vertex = .ok again ∧ SamePlaces again ring := by
  induction ring with
  | nil => exact ⟨[], rfl, .nil⟩
  | cons p ring ih =>
      obtain ⟨hp, hring⟩ := List.forall_mem_cons.mp h
      obtain ⟨again, hagain, hsame⟩ := ih hring
      obtain ⟨latitude, longitude, q, hlatitude, hlongitude, hq, heq⟩ := hp.exists_pointAt
      have hlatitude' : ((vertexJson p).item? 0).bind Json.double? = some latitude := hlatitude
      have hlongitude' : ((vertexJson p).item? 1).bind Json.double? = some longitude := hlongitude
      have hvertex : Geometry.vertex (vertexJson p) = .ok q := by rw [Geometry.vertex, hlatitude', hlongitude', ← hq]
      refine ⟨q :: again, ?_, .cons heq hsame⟩
      rw [List.map_cons, List.mapM_cons, hvertex, hagain]
      rfl

theorem lies_of_point {p : Point} (h : Geometry.point v = .ok p) : Lies p := by
  unfold Geometry.point at h
  split at h
  · obtain ⟨hlies, rfl⟩ := Geometry.pointAt_eq_ok_iff.mp h
    exact hlies
  · cases h

theorem exists_encode_polygon {ring : List Point} (hlies : ∀ p ∈ ring, Lies p) (hlength : 3 ≤ ring.length)
    (hthree : HasThree ring) {first last : Point} (hfirst : ring.head? = some first)
    (hlast : ring.getLast? = some last) (hclosed : first.eq last = true) :
    ∃ again, encode .polygon (polygonJson ring) = .ok (.polygon again) ∧ SamePlaces again ring := by
  obtain ⟨again, hagain, hsame⟩ := exists_vertices hlies
  have hring := hsame.closeRing hthree hfirst hlast hclosed
  have hpolygon : Geometry.polygon (.array (ring.map vertexJson)) = .ok again := by
    rw [Geometry.polygon, List.length_map, if_neg (Nat.not_lt.mpr hlength), hagain]
    exact hring
  exact ⟨again, congrArg (Except.map Value.polygon) hpolygon, hsame⟩

theorem exists_encode_ring {c : Json} {ring : List Point} (h : Geometry.polygon c = .ok ring) :
    ∃ again, encode .polygon (polygonJson ring) = .ok (.polygon again) ∧ SamePlaces again ring := by
  obtain ⟨vs, hvs, hthree, rfl⟩ := Geometry.polygon_eq_ok_iff.mp h
  have hreads := hvs.readsAs hthree
  obtain ⟨first, last, hfirst, hlast, hclosed⟩ := hreads.closed
  refine exists_encode_polygon (fun p hp => ?_) ?_ hreads.three hfirst hlast hclosed
  · obtain ⟨q, hq, rfl⟩ := List.mem_map.mp (Geometry.mem_closed_iff.mp hp)
    exact (hvs.onGlobe q hq).lies
  · have hlength := hvs.length
    have := hreads.length
    rw [List.length_map] at this
    omega

theorem exists_encode {type : FieldType} {stored : Value} (h : encode type v = .ok stored)
    (hrestorable : Restorable type stored) :
    ∃ again, encode type (decode (some type) stored) = .ok again ∧ SameValue again stored := by
  by_cases hnull : v.isNull = true
  · have hstored : stored = .null := by
      simp only [encode, hnull, if_true, Except.ok.injEq] at h
      exact h.symm
    subst hstored
    exact ⟨.null, rfl, rfl⟩
  have hkept (htype : ∀ v : Json, encode type v = if v.isNull then .ok .null else .ok (.json v)) :
      ∃ again, encode type (decode (some type) stored) = .ok again ∧ SameValue again stored := by
    rw [htype, if_neg hnull] at h
    cases h
    exact ⟨.json v, by rw [decode, htype, if_neg hnull], rfl⟩
  cases type with
  | date =>
      cases stored with
      | timestamp t =>
          obtain ⟨hlow, hhigh, hleap, hmillis⟩ := hrestorable
          exact ⟨_, encode_date ⟨hlow, hhigh⟩ hleap hmillis, rfl⟩
      | _ => exact hrestorable.elim
  | pointer target =>
      cases stored with
      | string id => exact ⟨_, (encodes_pointer ⟨_, rfl, .refl _⟩).encode, rfl⟩
      | _ => exact hrestorable.elim
  | file =>
      cases stored with
      | string name => exact ⟨_, (encodes_file ⟨_, rfl, .refl _⟩).encode, rfl⟩
      | _ => exact hrestorable.elim
  | geoPoint =>
      rw [encode, if_neg hnull] at h
      obtain ⟨p, hp, rfl⟩ := Result.map_ok h
      obtain ⟨q, hq, heq⟩ := exists_encode_point (lies_of_point hp)
      exact ⟨.point q, hq, heq⟩
  | polygon =>
      rw [encode, if_neg hnull] at h
      obtain ⟨ring, hring, rfl⟩ := Result.map_ok h
      obtain ⟨again, hagain, hsame⟩ := exists_encode_ring hring
      exact ⟨.polygon again, hagain, hsame⟩
  | arrayOf contents =>
      cases contents with
      | string =>
          cases v with
          | array items =>
              cases h
              exact ⟨_, (encodes_strings _).encode, rfl⟩
          | null => exact absurd rfl hnull
          | _ => cases h
      | _ => exact hkept fun _ => rfl
  | array => exact hkept fun _ => rfl
  | object => exact hkept fun _ => rfl
  | bytes => exact hkept fun _ => rfl
  | _ => exact hrestorable.elim

/-- Encoding and decoding undo each other. A value in the form of its field's type is encoded, and decoded to the same
value. What any value was encoded as is decoded to a value that is encoded as the same again: dates in years of four
digits and in whole milliseconds, references by their texts, points, polygons, lists and documents. -/
theorem columns_round_trip (type : FieldType) :
    (∀ v, InForm type v → ∃ stored, encode type v = .ok stored ∧ Same (decode (some type) stored) v) ∧
      ∀ v stored, encode type v = .ok stored → Restorable type stored →
        ∃ again, encode type (decode (some type) stored) = .ok again ∧ SameValue again stored :=
  ⟨fun _ => exists_decode, fun _ _ => exists_encode⟩

theorem columns_round_trip_player :
    (∃ stored, encode .date (.object (dateFields "2024-03-01T12:30:00.000Z")) = .ok stored ∧
        Same (decode (some .date) stored) (.object (dateFields "2024-03-01T12:30:00.000Z"))) ∧
      ∃ again, encode (.pointer "Team") (decode (some (.pointer "Team")) (.string "t1")) = .ok again ∧
        SameValue again (.string "t1") := by
  have hiso : Time.IsIso "2024-03-01T12:30:00.000Z" :=
    ⟨2024, 3, 1, 12, 30, 0, 0, by decide, by decide, by decide, by decide, by decide, by decide, by decide⟩
  exact ⟨(columns_round_trip .date).1 _ ⟨_, hiso, _, rfl, .refl _⟩,
    (columns_round_trip (.pointer "Team")).2 (.string "t1") _ rfl trivial⟩

end Encoding

end Docstore
