import Docstore.Geometry
import Docstore.Proofs.Number.Bounds
import Docstore.Proofs.Results
import Mathlib.Data.List.Perm.Subperm

/-!
# Rings

A closed ring of canonical positions with three different vertices is read as its vertices, none added and none
lost (`polygon_of_isRing`).
-/

namespace Docstore

/-! ## Places -/

namespace Point

variable {p q r : Point}

theorem eq_iff : p.eq q = true ↔ Double.eq p.x q.x = true ∧ Double.eq p.y q.y = true := by
  rw [Point.eq, Bool.and_eq_true]

theorem eq_symm (h : p.eq q = true) : q.eq p = true := by
  simp only [eq_iff, Double.eq_iff] at h ⊢
  tauto

theorem eq_trans (h : p.eq q = true) (h' : q.eq r = true) : p.eq r = true := by
  simp only [eq_iff, Double.eq_iff] at h h' ⊢
  obtain ⟨⟨hx, -, hxs⟩, hy, -, hys⟩ := h
  obtain ⟨⟨-, hx', hxs'⟩, -, hy', hys'⟩ := h'
  exact ⟨⟨hx, hx', hxs.trans hxs'⟩, hy, hy', hys.trans hys'⟩

theorem eq_congr {p' q' : Point} (hp : p'.eq p = true) (hq : q'.eq q = true) : p'.eq q' = p.eq q :=
  Bool.eq_iff_iff.mpr
    ⟨fun h => eq_trans (eq_symm hp) (eq_trans h hq), fun h => eq_trans hp (eq_trans h (eq_symm hq))⟩

end Point

namespace Geometry

open Docstore.Json (Number)

/-! ## Positions -/

/-- A latitude and a longitude on the globe, in numbers that doubles hold exactly. -/
structure IsPosition (p : Number × Number) : Prop where
  latitude : p.1.IsCanonical
  longitude : p.2.IsCanonical
  between : p.1.double.between (-90) 90 = true ∧ p.2.double.between (-180) 180 = true

/-- The point at a latitude and a longitude. -/
def place (p : Number × Number) : Point := ⟨p.2.double, p.1.double⟩

/-- A latitude and a longitude as a vertex of a ring. -/
def pairJson (p : Number × Number) : Json := .array [.number p.1, .number p.2]

variable {p q : Number × Number}

theorem IsPosition.pointAt (h : IsPosition p) : pointAt p.1.double p.2.double = .ok (place p) := by
  rw [Geometry.pointAt, validate, h.between.1, h.between.2]
  rfl

theorem IsPosition.vertex (h : IsPosition p) : vertex (pairJson p) = .ok (place p) := by
  have hlatitude : ((pairJson p).item? 0).bind Json.double? = some p.1.double := p.1.double?_number
  have hlongitude : ((pairJson p).item? 1).bind Json.double? = some p.2.double := p.2.double?_number
  rw [Geometry.vertex, hlatitude, hlongitude]
  exact h.pointAt

theorem IsPosition.eq_self (h : IsPosition p) : (place p).eq (place p) = true := by
  rw [Point.eq, place, h.latitude.eq_self, h.longitude.eq_self]
  rfl

theorem IsPosition.eq_of_place_eq (hp : IsPosition p) (hq : IsPosition q) (h : (place p).eq (place q) = true) :
    p = q := by
  rw [Point.eq, Bool.and_eq_true] at h
  exact Prod.ext (hp.latitude.eq_of_double_eq hq.latitude h.2) (hp.longitude.eq_of_double_eq hq.longitude h.1)

/-! ## Different places -/

theorem three_le_length {α : Type} {xs : List α} {a b c : α} (ha : a ∈ xs) (hb : b ∈ xs) (hc : c ∈ xs)
    (hab : a ≠ b) (hbc : b ≠ c) (hac : a ≠ c) : 3 ≤ xs.length := by
  have hnodup : [a, b, c].Nodup := by simp [hab, hbc, hac]
  have hsubset : [a, b, c] ⊆ xs := by simp [ha, hb, hc]
  exact (hnodup.subperm hsubset).length_le

/-- Three of the points are at different places, each of them off the other two. -/
def HasThree (ps : List Point) : Prop :=
  ∃ a ∈ ps, ∃ b ∈ ps, ∃ c ∈ ps, a.eq b = false ∧ b.eq c = false ∧ a.eq c = false

theorem HasThree.mono {ps qs : List Point} (h : ∀ p ∈ ps, p ∈ qs) : HasThree ps → HasThree qs := by
  rintro ⟨a, ha, b, hb, c, hc, hne⟩
  exact ⟨a, h a ha, b, h b hb, c, h c hc, hne⟩

/-- Points that stand for others at the same places. -/
theorem HasThree.of_places {ps qs : List Point} (h : ∀ p ∈ ps, ∃ q ∈ qs, q.eq p = true) :
    HasThree ps → HasThree qs := by
  rintro ⟨a, ha, b, hb, c, hc, hab, hbc, hac⟩
  obtain ⟨a', ha', haa⟩ := h a ha
  obtain ⟨b', hb', hbb⟩ := h b hb
  obtain ⟨c', hc', hcc⟩ := h c hc
  exact ⟨a', ha', b', hb', c', hc', (Point.eq_congr haa hbb).trans hab, (Point.eq_congr hbb hcc).trans hbc,
    (Point.eq_congr haa hcc).trans hac⟩

theorem HasThree.length {ps : List Point} (h : HasThree ps) (hself : ∀ p ∈ ps, p.eq p = true) : 3 ≤ ps.length := by
  obtain ⟨a, ha, b, hb, c, hc, hab, hbc, hac⟩ := h
  have hne {p q : Point} (hp : p ∈ ps) (hpq : p.eq q = false) : p ≠ q := by
    rintro rfl
    rw [hself p hp] at hpq
    cases hpq
  exact three_le_length ha hb hc (hne ha hab) (hne hb hbc) (hne ha hac)

/-- The loop that looks for points at different places keeps a list of such points, which stand for all that it has
seen. -/
theorem foldl_distinct {ps seen : List Point} (hself : ∀ p ∈ ps, p.eq p = true)
    (hseen : seen.Pairwise fun p q => p.eq q = false) :
    ∃ qs, ps.foldl (fun seen p => if p.isIn seen then seen else seen ++ [p]) seen = qs ∧
      (qs.Pairwise fun p q => p.eq q = false) ∧ (∀ q ∈ qs, q ∈ seen ∨ q ∈ ps) ∧ (∀ q ∈ seen, q ∈ qs) ∧
      ∀ p ∈ ps, ∃ q ∈ qs, q.eq p = true := by
  induction ps generalizing seen with
  | nil => exact ⟨seen, rfl, hseen, fun q hq => .inl hq, fun q hq => hq, List.forall_mem_nil _⟩
  | cons p ps ih =>
      obtain ⟨hp, hself⟩ := List.forall_mem_cons.mp hself
      rw [List.foldl_cons]
      by_cases hin : p.isIn seen = true
      · obtain ⟨q, hq, heq⟩ := List.any_eq_true.mp hin
        obtain ⟨qs, hfold, hpairs, hfrom, hkept, hall⟩ := ih hself hseen
        rw [if_pos hin]
        exact ⟨qs, hfold, hpairs, fun r hr => (hfrom r hr).imp_right (.tail p), hkept,
          List.forall_mem_cons.mpr ⟨⟨q, hkept q hq, heq⟩, hall⟩⟩
      · have hnew : (seen ++ [p]).Pairwise fun p q => p.eq q = false := by
          refine List.pairwise_append.mpr ⟨hseen, List.pairwise_singleton _ p, fun q hq r hr => ?_⟩
          rw [List.mem_singleton.mp hr]
          exact Bool.eq_false_iff.mpr fun heq => hin (List.any_eq_true.mpr ⟨q, hq, heq⟩)
        obtain ⟨qs, hfold, hpairs, hfrom, hkept, hall⟩ := ih hself hnew
        rw [if_neg hin]
        refine ⟨qs, hfold, hpairs, fun r hr => ?_, fun r hr => hkept r (List.mem_append_left _ hr),
          List.forall_mem_cons.mpr ⟨⟨p, hkept p (List.mem_append_right _ (.head _)), hp⟩, hall⟩⟩
        rcases hfrom r hr with hr | hr
        · rcases List.mem_append.mp hr with hr | hr
          · exact .inl hr
          · exact .inr (List.mem_singleton.mp hr ▸ .head _)
        · exact .inr (.tail _ hr)

theorem three_le_distinct_iff {ps : List Point} (hself : ∀ p ∈ ps, p.eq p = true) :
    3 ≤ (distinct ps).length ↔ HasThree ps := by
  obtain ⟨qs, hqs, hpairs, hfrom, -, hall⟩ := foldl_distinct hself .nil
  rw [distinct, hqs]
  have hfrom' : ∀ q ∈ qs, q ∈ ps := fun q hq => (hfrom q hq).resolve_left List.not_mem_nil
  constructor
  · intro hlength
    match qs, hlength with
    | a :: b :: c :: rest, _ =>
        obtain ⟨ha, hpairs⟩ := List.pairwise_cons.mp hpairs
        obtain ⟨hb, -⟩ := List.pairwise_cons.mp hpairs
        exact ⟨a, hfrom' a (by simp), b, hfrom' b (by simp), c, hfrom' c (by simp), ha b (by simp), hb c (by simp),
          ha c (by simp)⟩
  · intro hthree
    exact (hthree.of_places hall).length fun q hq => hself q (hfrom' q hq)

/-! ## Rings -/

/-- The vertices of a closed ring, of which three are different. -/
structure IsRing (ring : List (Number × Number)) : Prop where
  positions : ∀ p ∈ ring, IsPosition p
  closed : ring.head? = ring.getLast?
  three : ∃ a ∈ ring, ∃ b ∈ ring, ∃ c ∈ ring, a ≠ b ∧ b ≠ c ∧ a ≠ c

variable {ring : List (Number × Number)}

theorem IsRing.closed_places (h : IsRing ring) : Geometry.closed (ring.map place) = ring.map place := by
  rw [Geometry.closed, List.head?_map, List.getLast?_map, ← h.closed]
  cases hfirst : ring.head? with
  | none => rfl
  | some p =>
      have hp : IsPosition p := h.positions p (List.mem_of_mem_head? hfirst)
      simp only [Option.map_some, hp.eq_self, if_true]

theorem IsRing.hasThree (h : IsRing ring) : HasThree (ring.map place) := by
  obtain ⟨a, ha, b, hb, c, hc, hab, hbc, hac⟩ := h.three
  have hne {p q : Number × Number} (hp : p ∈ ring) (hq : q ∈ ring) (hpq : p ≠ q) : (place p).eq (place q) = false :=
    Bool.eq_false_iff.mpr fun heq => hpq ((h.positions p hp).eq_of_place_eq (h.positions q hq) heq)
  exact ⟨_, List.mem_map_of_mem ha, _, List.mem_map_of_mem hb, _, List.mem_map_of_mem hc, hne ha hb hab,
    hne hb hc hbc, hne ha hc hac⟩

theorem IsRing.three_distinct (h : IsRing ring) : 3 ≤ (distinct (ring.map place)).length := by
  refine (three_le_distinct_iff ?_).mpr h.hasThree
  rw [List.forall_mem_map]
  exact fun p hp => (h.positions p hp).eq_self

/-- A ring is read as its vertices. -/
theorem polygon_of_isRing (h : IsRing ring) : polygon (.array (ring.map pairJson)) = .ok (ring.map place) := by
  obtain ⟨a, ha, b, hb, c, hc, hab, hbc, hac⟩ := h.three
  have hlength : ¬ (ring.map pairJson).length < 3 := by
    rw [List.length_map, Nat.not_lt]
    exact three_le_length ha hb hc hab hbc hac
  have hvertices : (ring.map pairJson).mapM vertex = .ok (ring.map place) :=
    Result.mapM_map_ok fun p hp => (h.positions p hp).vertex
  have hring : closeRing (ring.map place) = .ok (ring.map place) := by
    rw [closeRing, h.closed_places, if_neg (Nat.not_lt.mpr h.three_distinct)]
  rw [polygon, if_neg hlength, hvertices]
  exact hring

end Geometry

end Docstore
