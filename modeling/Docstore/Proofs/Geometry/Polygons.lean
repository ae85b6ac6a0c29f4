import Docstore.Proofs.Geometry.Rings

/-!
# Polygons

Which coordinates are those of a polygon, which ring is read from them, and why others are refused. Main statement:
three pairs on the globe or more are read as their points in order, closed, just if three of these are different
places; other coordinates are refused for the list, for their number or for the first pair that is no vertex
(`polygon_exact`).
-/

namespace Docstore.Geometry

open Docstore.Json (Number)

/-! ## Closed rings -/

theorem closed_eq {ps : List Point} {first last : Point} (hfirst : ps.head? = some first)
    (hlast : ps.getLast? = some last) : closed ps = ps ++ if first.eq last then [] else [first] := by
  simp only [closed, hfirst, hlast]
  split <;> simp

theorem mem_closed_iff {ps : List Point} {p : Point} : p ∈ closed ps ↔ p ∈ ps := by
  unfold closed
  split
  · rename_i first last hfirst hlast
    split
    · rfl
    · rw [List.mem_append, List.mem_singleton]
      refine ⟨fun h => h.elim id ?_, .inl⟩
      rintro rfl
      exact List.mem_of_mem_head? hfirst
  · rfl

theorem hasThree_closed_iff {ps : List Point} : HasThree (closed ps) ↔ HasThree ps :=
  ⟨.mono fun _ h => mem_closed_iff.mp h, .mono fun _ h => mem_closed_iff.mpr h⟩

theorem getLast?_closed {ps : List Point} {first : Point} (hfirst : ps.head? = some first) (hself : first.eq first = true) :
    (closed ps).head? = some first ∧ ∃ last, (closed ps).getLast? = some last ∧ first.eq last = true := by
  have hne : ps ≠ [] := by
    rintro rfl
    cases hfirst
  rw [closed_eq hfirst (List.getLast?_eq_some_getLast hne)]
  split
  · rename_i heq
    rw [List.append_nil]
    exact ⟨hfirst, _, List.getLast?_eq_some_getLast hne, heq⟩
  · exact ⟨by rw [List.head?_append, hfirst]; rfl, first, List.getLast?_concat, hself⟩

theorem closed_closed {ps : List Point} (hself : ∀ p ∈ ps.head?, p.eq p = true) : closed (closed ps) = closed ps := by
  cases hfirst : ps.head? with
  | none =>
      rw [List.head?_eq_none_iff] at hfirst
      rw [hfirst]
      rfl
  | some first =>
      obtain ⟨hhead, last, hlast, heq⟩ := getLast?_closed hfirst (hself first hfirst)
      rw [closed_eq hhead hlast, if_pos heq, List.append_nil]

theorem closeRing_closeRing {ps ring : List Point} (hself : ∀ p ∈ ps.head?, p.eq p = true)
    (h : closeRing ps = .ok ring) : closeRing ring = .ok ring := by
  rw [closeRing] at h
  split at h
  · cases h
  · rename_i hlength
    cases h
    rw [closeRing, closed_closed hself, if_neg hlength]

/-- The failure of a ring without three different vertices. -/
def tooFewVertices : Cause := .internalServerError "GeoJSON: Loop must have at least 3 different vertices"

section

variable {ps : List Point} (hself : ∀ p ∈ ps, p.eq p = true)

include hself

theorem closeRing_of_hasThree (h : HasThree ps) : closeRing ps = .ok (closed ps) := by
  have hlength := (three_le_distinct_iff fun p hp => hself p (mem_closed_iff.mp hp)).mpr (hasThree_closed_iff.mpr h)
  rw [closeRing, if_neg (Nat.not_lt.mpr hlength)]

theorem closeRing_of_not_hasThree (h : ¬ HasThree ps) : closeRing ps = fail tooFewVertices := by
  have hlength := mt (three_le_distinct_iff fun p hp => hself p (mem_closed_iff.mp hp)).mp
    (mt hasThree_closed_iff.mp h)
  rw [closeRing, if_pos (Nat.not_le.mp hlength)]
  rfl

end

/-! ## Vertices -/

/-- A list that begins with two numbers. -/
def IsPair (pair : Json) (p : Number × Number) : Prop :=
  ∃ items, pair = .array items ∧ items[0]? = some (.number p.1) ∧ items[1]? = some (.number p.2)

/-- A latitude and a longitude on the globe. -/
def OnGlobe (p : Number × Number) : Prop := p.1.IsWithin 90 ∧ p.2.IsWithin 180

/-- A point of a latitude and a longitude on the globe. -/
def Lies (p : Point) : Prop := p.y.between (-90) 90 = true ∧ p.x.between (-180) 180 = true

def IsVertex (pair : Json) (p : Number × Number) : Prop := IsPair pair p ∧ OnGlobe p

/-- A pair that is no vertex, and what is said of it. -/
inductive Refused (pair : Json) : String → Prop
  | shape (h : ∀ p, ¬ IsPair pair p) : Refused pair ("invalid Polygon point: " ++ pair.print)
  | latitude {p} (h : IsPair pair p) (hlatitude : ¬ p.1.IsWithin 90) :
      Refused pair ("GeoPoint latitude out of bounds: " ++ FloatText.sql.write p.1.double)
  | longitude {p} (h : IsPair pair p) (hlatitude : p.1.IsWithin 90) (hlongitude : ¬ p.2.IsWithin 180) :
      Refused pair ("GeoPoint longitude out of bounds: " ++ FloatText.sql.write p.2.double)

variable {pair : Json} {p q : Number × Number}

theorem IsPair.item? (h : IsPair pair p) : pair.item? 0 = some (.number p.1) ∧ pair.item? 1 = some (.number p.2) := by
  obtain ⟨items, rfl, h⟩ := h
  exact h

theorem IsPair.vertex (h : IsPair pair p) : vertex pair = pointAt p.1.double p.2.double := by
  simp only [Geometry.vertex, h.item?.1, h.item?.2, Option.bind_some, Number.double?_number]

theorem double?_eq_some_iff {v : Json} {x : Double} : v.double? = some x ↔ ∃ n, v = .number n ∧ n.double = x := by
  constructor
  · intro h
    unfold Json.double? at h
    split at h
    · exact ⟨_, rfl, Option.some.inj h⟩
    · exact ⟨_, rfl, Option.some.inj h⟩
    · cases h
  · rintro ⟨n, rfl, rfl⟩
    exact n.double?_number

theorem vertex_of_not_isPair (h : ∀ p, ¬ IsPair pair p) :
    vertex pair = fail (.invalidJson ("invalid Polygon point: " ++ pair.print)) := by
  unfold vertex
  split
  · rename_i hlatitude hlongitude
    obtain ⟨v, hv, hlatitude⟩ := Option.bind_eq_some_iff.mp hlatitude
    obtain ⟨w, hw, hlongitude⟩ := Option.bind_eq_some_iff.mp hlongitude
    obtain ⟨m, rfl, -⟩ := double?_eq_some_iff.mp hlatitude
    obtain ⟨n, rfl, -⟩ := double?_eq_some_iff.mp hlongitude
    cases pair with
    | array items => exact absurd ⟨items, rfl, hv, hw⟩ (h (m, n))
    | _ => cases hv
  · rfl

theorem pointAt_eq_ok_iff {latitude longitude : Double} {q : Point} :
    pointAt latitude longitude = .ok q ↔ Lies ⟨longitude, latitude⟩ ∧ q = ⟨longitude, latitude⟩ := by
  unfold pointAt validate Lies
  cases latitude.between (-90) 90 <;> cases longitude.between (-180) 180 <;> simp [fail, Except.map, eq_comm]

theorem OnGlobe.lies (h : OnGlobe p) : Lies (place p) :=
  ⟨(p.1.between_iff (by decide)).mpr h.1, (p.2.between_iff (by decide)).mpr h.2⟩

theorem IsVertex.vertex (h : IsVertex pair p) : vertex pair = .ok (place p) :=
  h.1.vertex.trans (pointAt_eq_ok_iff.mpr ⟨h.2.lies, rfl⟩)

theorem OnGlobe.eq_self (h : OnGlobe p) : (place p).eq (place p) = true :=
  Point.eq_iff.mpr ⟨Double.eq_self_iff.mpr (h.2.isNaN (by decide)), Double.eq_self_iff.mpr (h.1.isNaN (by decide))⟩

theorem Refused.vertex {m : String} (h : Refused pair m) : vertex pair = fail (.invalidJson m) := by
  cases h with
  | shape h => exact vertex_of_not_isPair h
  | latitude h hlatitude =>
      rw [← Number.between_iff (by decide), Bool.not_eq_true] at hlatitude
      rw [h.vertex, pointAt, validate, hlatitude]
      rfl
  | longitude h hlatitude hlongitude =>
      rw [← Number.between_iff (by decide)] at hlatitude
      rw [← Number.between_iff (by decide), Bool.not_eq_true] at hlongitude
      rw [h.vertex, pointAt, validate, hlatitude, hlongitude]
      rfl

theorem vertex_or_refused (pair : Json) : (∃ p, IsVertex pair p) ∨ ∃ m, Refused pair m := by
  by_cases hpair : ∃ p, IsPair pair p
  · obtain ⟨p, hp⟩ := hpair
    by_cases hlatitude : p.1.IsWithin 90
    · by_cases hlongitude : p.2.IsWithin 180
      · exact .inl ⟨p, hp, hlatitude, hlongitude⟩
      · exact .inr ⟨_, .longitude hp hlatitude hlongitude⟩
    · exact .inr ⟨_, .latitude hp hlatitude⟩
  · exact .inr ⟨_, .shape (not_exists.mp hpair)⟩

/-! ## Coordinates -/

def Coordinates (c : Json) (vs : List (Number × Number)) : Prop :=
  ∃ pairs, c = .array pairs ∧ 3 ≤ pairs.length ∧ List.Forall₂ IsVertex pairs vs

/-- What is no list of three vertices or more, and what is said of it. Of several pairs that are no vertices it is the
first that something is said of. -/
inductive IllFormed : Json → String → Prop
  | notList {c} (h : ∀ pairs, c ≠ .array pairs) : IllFormed c ("invalid Polygon coordinates: " ++ c.print)
  | short {pairs} (h : pairs.length < 3) : IllFormed (.array pairs) "Polygon must have at least 3 values"
  | vertex {before pair after m} (hlength : 3 ≤ (before ++ pair :: after).length)
      (hbefore : ∀ other ∈ before, ∃ p, IsVertex other p) (h : Refused pair m) :
      IllFormed (.array (before ++ pair :: after)) m

variable {c : Json} {vs : List (Number × Number)}

theorem Coordinates.polygon (h : Coordinates c vs) : polygon c = closeRing (vs.map place) := by
  obtain ⟨pairs, rfl, hlength, hvs⟩ := h
  have hpoints : pairs.mapM Geometry.vertex = .ok (vs.map place) := by
    rw [Result.mapM_eq_ok_iff, List.forall₂_map_right_iff]
    exact hvs.imp fun _ _ h => h.vertex
  rw [Geometry.polygon, if_neg (Nat.not_lt.mpr hlength), hpoints]
  rfl

theorem Coordinates.length (h : Coordinates c vs) : 3 ≤ vs.length := by
  obtain ⟨pairs, -, hlength, hvs⟩ := h
  rwa [← hvs.length_eq]

theorem Coordinates.onGlobe (h : Coordinates c vs) : ∀ p ∈ vs, OnGlobe p := by
  obtain ⟨pairs, -, -, hvs⟩ := h
  have hglobe : List.Forall₂ (fun p pair => OnGlobe p ∧ IsPair pair p) vs pairs :=
    .flip (hvs.imp fun _ _ h => h.symm)
  exact ((List.forall₂_and_left vs pairs).mp hglobe).1

theorem Coordinates.eq_self (h : Coordinates c vs) : ∀ p ∈ vs.map place, p.eq p = true := by
  rw [List.forall_mem_map]
  exact fun p hp => (h.onGlobe p hp).eq_self

theorem IllFormed.polygon {m : String} (h : IllFormed c m) : polygon c = fail (.invalidJson m) := by
  cases h with
  | notList h =>
      unfold Geometry.polygon
      split
      · exact absurd rfl (h _)
      · rfl
  | short h => rw [Geometry.polygon, if_pos h]
  | @vertex before pair after m hlength hbefore h =>
      have hpoints : (before ++ pair :: after).mapM Geometry.vertex = fail (.invalidJson m) :=
        Result.mapM_eq_error_iff.mpr
          ⟨_, _, _, rfl, fun other hother => (hbefore other hother).imp' place fun _ hp => hp.vertex, h.vertex⟩
      rw [Geometry.polygon, if_neg (Nat.not_lt.mpr hlength), hpoints]
      rfl

theorem vertices_or_refused (pairs : List Json) : (∃ vs, List.Forall₂ IsVertex pairs vs) ∨
    ∃ before pair after m, pairs = before ++ pair :: after ∧ (∀ other ∈ before, ∃ p, IsVertex other p) ∧
      Refused pair m := by
  induction pairs with
  | nil => exact .inl ⟨[], .nil⟩
  | cons pair pairs ih =>
      rcases vertex_or_refused pair with ⟨p, hp⟩ | ⟨m, hm⟩
      · rcases ih with ⟨vs, hvs⟩ | ⟨before, other, after, m, rfl, hbefore, hm⟩
        · exact .inl ⟨p :: vs, .cons hp hvs⟩
        · exact .inr ⟨pair :: before, other, after, m, rfl, List.forall_mem_cons.mpr ⟨⟨p, hp⟩, hbefore⟩, hm⟩
      · exact .inr ⟨[], pair, pairs, m, rfl, List.forall_mem_nil _, hm⟩

theorem coordinates_or_illFormed (c : Json) : (∃ vs, Coordinates c vs) ∨ ∃ m, IllFormed c m := by
  by_cases hlist : ∃ pairs, c = .array pairs
  · obtain ⟨pairs, rfl⟩ := hlist
    by_cases hlength : 3 ≤ pairs.length
    · rcases vertices_or_refused pairs with ⟨vs, hvs⟩ | ⟨before, pair, after, m, rfl, hbefore, hm⟩
      · exact .inl ⟨vs, pairs, rfl, hlength, hvs⟩
      · exact .inr ⟨m, .vertex hlength hbefore hm⟩
    · exact .inr ⟨_, .short (Nat.not_le.mp hlength)⟩
  · exact .inr ⟨_, .notList (not_exists.mp hlist)⟩

/-- What is read from the points of vertices: the points in order, with the first of them behind them if it is at
another place than the last. -/
structure ReadsAs (ps ring : List Point) : Prop where
  points : ∃ first last, ps.head? = some first ∧ ps.getLast? = some last ∧
    ring = ps ++ if first.eq last then [] else [first]
  closed : ∃ first last, ring.head? = some first ∧ ring.getLast? = some last ∧ first.eq last = true
  length : ring.length = ps.length ∨ ring.length = ps.length + 1
  three : HasThree ring
  stable : closeRing ring = .ok ring

theorem Coordinates.readsAs (h : Coordinates c vs) (hthree : HasThree (vs.map place)) :
    ReadsAs (vs.map place) (Geometry.closed (vs.map place)) := by
  have hself := h.eq_self
  have hring := closeRing_of_hasThree hself hthree
  generalize vs.map place = ps at *
  have hne : ps ≠ [] := by
    rintro rfl
    obtain ⟨a, ha, -⟩ := hthree
    cases ha
  have hfirst := List.head?_eq_some_head hne
  have heq := closed_eq hfirst (List.getLast?_eq_some_getLast hne)
  obtain ⟨hhead, hlast⟩ := getLast?_closed hfirst (hself _ (List.head_mem hne))
  exact {
    points := ⟨_, _, hfirst, List.getLast?_eq_some_getLast hne, heq⟩
    closed := ⟨_, _, hhead, hlast.choose_spec⟩
    length := by
      rw [heq]
      split <;> simp
    three := hasThree_closed_iff.mpr hthree
    stable := closeRing_closeRing (fun p hp => hself p (List.mem_of_mem_head? hp)) hring }

theorem Coordinates.polygon_ok (h : Coordinates c vs) (hthree : HasThree (vs.map place)) :
    Geometry.polygon c = .ok (Geometry.closed (vs.map place)) :=
  h.polygon.trans (closeRing_of_hasThree h.eq_self hthree)

theorem Coordinates.polygon_fail (h : Coordinates c vs) (hthree : ¬ HasThree (vs.map place)) :
    Geometry.polygon c = fail tooFewVertices :=
  h.polygon.trans (closeRing_of_not_hasThree h.eq_self hthree)

theorem Coordinates.polygon_eq_ok_iff {ring : List Point} (h : Coordinates c vs) :
    Geometry.polygon c = .ok ring ↔ HasThree (vs.map place) ∧ ring = Geometry.closed (vs.map place) := by
  by_cases hthree : HasThree (vs.map place)
  · rw [h.polygon_ok hthree, Except.ok.injEq, eq_comm, and_iff_right hthree]
  · rw [h.polygon_fail hthree]
    exact iff_of_false nofun fun h => hthree h.1

theorem Coordinates.polygon_eq_error_iff {e : Fault} (h : Coordinates c vs) :
    Geometry.polygon c = .error e ↔ ¬ HasThree (vs.map place) ∧ e = .ofCause tooFewVertices := by
  by_cases hthree : HasThree (vs.map place)
  · rw [h.polygon_ok hthree]
    exact iff_of_false nofun fun h => h.1 hthree
  · rw [h.polygon_fail hthree, fail, Except.error.injEq, eq_comm, and_iff_right hthree]

theorem polygon_eq_ok_iff {ring : List Point} : polygon c = .ok ring ↔
    ∃ vs, Coordinates c vs ∧ HasThree (vs.map place) ∧ ring = Geometry.closed (vs.map place) := by
  constructor
  · intro h
    rcases coordinates_or_illFormed c with ⟨vs, hvs⟩ | ⟨m, hm⟩
    · exact ⟨vs, hvs, hvs.polygon_eq_ok_iff.mp h⟩
    · rw [hm.polygon] at h
      cases h
  · rintro ⟨vs, hvs, h⟩
    exact hvs.polygon_eq_ok_iff.mpr h

theorem polygon_eq_error_iff {e : Fault} : polygon c = .error e ↔
    (∃ m, IllFormed c m ∧ e = .ofCause (.invalidJson m)) ∨
      (∃ vs, Coordinates c vs ∧ ¬ HasThree (vs.map place)) ∧ e = .ofCause tooFewVertices := by
  constructor
  · intro h
    rcases coordinates_or_illFormed c with ⟨vs, hvs⟩ | ⟨m, hm⟩
    · obtain ⟨hfew, rfl⟩ := hvs.polygon_eq_error_iff.mp h
      exact .inr ⟨⟨vs, hvs, hfew⟩, rfl⟩
    · rw [hm.polygon] at h
      cases h
      exact .inl ⟨m, hm, rfl⟩
  · rintro (⟨m, hm, rfl⟩ | ⟨⟨vs, hvs, hfew⟩, rfl⟩)
    · exact hm.polygon
    · exact hvs.polygon_fail hfew

/-- Coordinates are read as a polygon just if they are three vertices or more, three of which are different places, and
then as their points in order, closed. They are refused as no such list or for the first pair that is no vertex, and
otherwise just if fewer than three of the vertices are different. A ring that was closed is not changed by closing it
again. -/
theorem polygon_exact (c : Json) :
    ((∃ ring, polygon c = .ok ring) ↔ ∃ vs, Coordinates c vs ∧ HasThree (vs.map place)) ∧
      (∀ vs ring, Coordinates c vs → polygon c = .ok ring → ReadsAs (vs.map place) ring) ∧
      (∀ e, polygon c = .error e ↔ (∃ m, IllFormed c m ∧ e = .ofCause (.invalidJson m)) ∨
        (∃ vs, Coordinates c vs ∧ ¬ HasThree (vs.map place)) ∧ e = .ofCause tooFewVertices) ∧
      ∀ ps ring, (∀ p ∈ ps.head?, p.eq p = true) → closeRing ps = .ok ring → closeRing ring = .ok ring := by
  refine ⟨⟨?_, ?_⟩, fun vs ring hvs hring => ?_, fun e => polygon_eq_error_iff, fun ps ring => closeRing_closeRing⟩
  · rintro ⟨ring, hring⟩
    obtain ⟨vs, hvs, hthree, -⟩ := polygon_eq_ok_iff.mp hring
    exact ⟨vs, hvs, hthree⟩
  · rintro ⟨vs, hvs, hthree⟩
    exact ⟨_, hvs.polygon_ok hthree⟩
  · obtain ⟨hthree, rfl⟩ := hvs.polygon_eq_ok_iff.mp hring
    exact hvs.readsAs hthree

/-- The corners of a triangle, not closed. -/
def triangle : List (Number × Number) :=
  [(.integer 0, .integer 0), (.integer 0, .integer 1), (.integer 1, .integer 1)]

theorem polygon_exact_triangle :
    ∃ ring, polygon (.array (triangle.map pairJson)) = .ok ring ∧ ReadsAs (triangle.map place) ring := by
  have hpair (x y : Int) (hx : -90 ≤ x ∧ x ≤ 90) (hy : -180 ≤ y ∧ y ≤ 180) :
      IsVertex (pairJson (.integer x, .integer y)) (.integer x, .integer y) := ⟨⟨_, rfl, rfl, rfl⟩, hx, hy⟩
  have hvs : Coordinates (.array (triangle.map pairJson)) triangle :=
    ⟨_, rfl, by decide, .cons (hpair 0 0 (by decide) (by decide)) (.cons (hpair 0 1 (by decide) (by decide))
      (.cons (hpair 1 1 (by decide) (by decide)) .nil))⟩
  have hthree : HasThree (triangle.map place) :=
    ⟨_, .head _, _, .tail _ (.head _), _, .tail _ (.tail _ (.head _)), by decide +kernel, by decide +kernel,
      by decide +kernel⟩
  obtain ⟨ring, hring⟩ := (polygon_exact _).1.mpr ⟨_, hvs, hthree⟩
  exact ⟨ring, hring, (polygon_exact _).2.1 _ ring hvs hring⟩

end Docstore.Geometry
