import Docstore.Proofs.Query.Outlines

/-!
# Conditions with other tests

What stays when the tests of conditions are replaced by others that bind the same values. Main statement: if the
entries of a query become the same conditions but for such a replacement, so does the query (`compile_map`).
-/

namespace Docstore.Query

/-! ## Replaced tests -/

namespace Condition

mutual

/-- A condition with each of its tests replaced. -/
def map (f : Test → Test) : Condition → Condition
  | test t => test (f t)
  | negate c => negate (map f c)
  | anyOf css => anyOf (mapMembers f css)
  | allOf css => allOf (mapMembers f css)

def mapAll (f : Test → Test) : List Condition → List Condition
  | [] => []
  | c :: cs => map f c :: mapAll f cs

def mapMembers (f : Test → Test) : List (List Condition) → List (List Condition)
  | [] => []
  | cs :: css => mapAll f cs :: mapMembers f css

end

variable {f : Test → Test}

mutual

theorem tests_map (c : Condition) : (c.map f).tests = c.tests.map f := by
  match c with
  | .test t => rfl
  | .negate c => exact tests_map c
  | .anyOf css => exact testsOfMembers_mapMembers css
  | .allOf css => exact testsOfMembers_mapMembers css

theorem testsOfAll_mapAll (cs : List Condition) : testsOfAll (mapAll f cs) = (testsOfAll cs).map f := by
  match cs with
  | [] => rfl
  | c :: cs =>
      rw [mapAll, testsOfAll_cons, tests_map c, testsOfAll_mapAll cs, testsOfAll_cons, List.map_append]

theorem testsOfMembers_mapMembers (css : List (List Condition)) :
    testsOfMembers (mapMembers f css) = (testsOfMembers css).map f := by
  match css with
  | [] => rfl
  | cs :: css =>
      rw [mapMembers, testsOfMembers_cons, testsOfAll_mapAll cs, testsOfMembers_mapMembers css,
        testsOfMembers_cons, List.map_append]

end

mutual

theorem map_eq_self (c : Condition) (h : ∀ t ∈ c.tests, f t = t) : c.map f = c := by
  match c with
  | .test t =>
      have ht : f t = t := h t (.head _)
      rw [map, ht]
  | .negate c => rw [map, map_eq_self c h]
  | .anyOf css => rw [map, mapMembers_eq_self css h]
  | .allOf css => rw [map, mapMembers_eq_self css h]

theorem mapAll_eq_self (cs : List Condition) (h : ∀ t ∈ testsOfAll cs, f t = t) : mapAll f cs = cs := by
  match cs with
  | [] => rfl
  | c :: cs =>
      rw [testsOfAll_cons, List.forall_mem_append] at h
      rw [mapAll, map_eq_self c h.1, mapAll_eq_self cs h.2]

theorem mapMembers_eq_self (css : List (List Condition)) (h : ∀ t ∈ testsOfMembers css, f t = t) :
    mapMembers f css = css := by
  match css with
  | [] => rfl
  | cs :: css =>
      rw [testsOfMembers_cons, List.forall_mem_append] at h
      rw [mapMembers, mapAll_eq_self cs h.1, mapMembers_eq_self css h.2]

end

theorem mapAll_append (cs ds : List Condition) : mapAll f (cs ++ ds) = mapAll f cs ++ mapAll f ds := by
  induction cs with
  | nil => rfl
  | cons c cs ih => rw [List.cons_append, mapAll, mapAll, ih, List.cons_append]

end Condition

/-! ## What stays -/

/-- A replacement of tests that changes neither the values they bind nor what else they ask of a statement. -/
structure KeepsData (f : Test → Test) : Prop where
  constant : ∀ b, f (.constant b) = .constant b
  values : ∀ t, Sql.Template.values (f t).template = Sql.Template.values t.template
  near : ∀ t, (f t).near? = t.near?
  search : ∀ t, (f t).search? = t.search?

namespace KeepsData

theorem id : KeepsData id := ⟨fun _ => rfl, fun _ => rfl, fun _ => rfl, fun _ => rfl⟩

variable {f : Test → Test} (hf : KeepsData f)

include hf

theorem values_mapAll (cs : List Condition) :
    Condition.values (Condition.mapAll f cs) = Condition.values cs := by
  rw [Condition.values, Condition.values_conjunction, Condition.testsOfAll_mapAll, List.flatMap_map,
    Condition.values, Condition.values_conjunction]
  simp only [hf.values]

theorem traces_mapAll (cs : List Condition) :
    (Condition.testsOfAll (Condition.mapAll f cs)).map Test.trace =
      (Condition.testsOfAll cs).map Test.trace := by
  rw [Condition.testsOfAll_mapAll, List.map_map]
  refine List.map_congr_left fun t _ => ?_
  rw [Function.comp_apply, Test.trace, hf.values, hf.near, hf.search, ← Test.trace]

theorem orders_mapAll (first : Nat) (cs : List Condition) :
    Condition.orders first (Condition.mapAll f cs) = Condition.orders first cs := by
  rw [Condition.orders, Condition.nears_eq_of_trace (hf.traces_mapAll cs), ← Condition.orders]

theorem search_mapAll (cs : List Condition) :
    Condition.search? (Condition.mapAll f cs) = Condition.search? cs := by
  rw [Condition.search?_eq, hf.traces_mapAll, ← Condition.search?_eq]

/-! ## Queries -/

theorem append_map (r s : Clauses) :
    Clauses.append (r.map (Condition.mapAll f)) (s.map (Condition.mapAll f)) =
      (Clauses.append r s).map (Condition.mapAll f) := by
  cases r with
  | error e => rfl
  | ok cs =>
      cases s with
      | error e =>
          simp only [Except.map, Clauses.append, Clauses.after, hf.values_mapAll]
      | ok ds =>
          simp only [Except.map, Clauses.append, Clauses.after, Condition.mapAll_append]

theorem combine_map (op : String) (css : List (List Condition)) :
    combine op (Condition.mapMembers f css) = (combine op css).map f := by
  cases css with
  | nil => rw [Condition.mapMembers, combine, Condition.map, hf.constant]
  | cons cs css =>
      simp only [Condition.mapMembers, combine]
      split
      · rfl
      split
      · rfl
      · rfl

omit hf in
theorem required_map (key : String) (value : Json) (r : Clauses) :
    required key value (r.map (Condition.mapAll f)) = (required key value r).map (Condition.mapAll f) := by
  cases r with
  | error e => rfl
  | ok cs => cases cs <;> rfl

end KeepsData

section

variable {c c' : Context} {f : Test → Test} (hf : KeepsData f)

/-- An entry becomes the same conditions in both contexts but for the replacement. -/
abbrev MapsEntry (c c' : Context) (f : Test → Test) (e : String × Json) : Prop :=
  fieldClauses c' e.1 e.2 = (fieldClauses c e.1 e.2).map (Condition.mapAll f)

include hf

mutual

theorem compile_map (hschema : c'.schema = c.schema) (q : List (String × Json))
    (h : ∀ e ∈ fieldEntries q, MapsEntry c c' f e) :
    compile c' q = (compile c q).map (Condition.mapAll f) := by
  match q with
  | [] => rfl
  | (key, value) :: rest =>
      rw [fieldEntries, List.forall_mem_append] at h
      have hrest := compile_map hschema rest h.2
      rw [compile, compile, hschema]
      split
      · exact hrest
      · rw [compileEntry_map hschema key value h.1, hrest, hf.append_map]

theorem compileEntry_map (hschema : c'.schema = c.schema) (key : String) (value : Json)
    (h : ∀ e ∈ entriesIn key value, MapsEntry c c' f e) :
    compileEntry c' key value = (compileEntry c key value).map (Condition.mapAll f) := by
  match value with
  | .array items =>
      rw [entriesIn] at h
      rw [compileEntry, compileEntry]
      split at h
      · rename_i hl
        rw [if_pos hl, if_pos hl, compileMembers_map hschema key items h]
        cases compileMembers c key items with
        | error e => rfl
        | ok css => exact congrArg Clauses.one (hf.combine_map key css)
      · rename_i hl
        have he : MapsEntry c c' f (key, .array items) := h _ (.head _)
        rw [if_neg hl, if_neg hl, he, KeepsData.required_map]
  | .null | .bool _ | .number _ | .string _ | .object _ =>
      simp only [entriesIn] at h
      simp only [compileEntry]
      split
      · rfl
      · rename_i hl
        rw [if_neg hl] at h
        have he := h _ (.head _)
        rw [MapsEntry] at he
        rw [he, KeepsData.required_map]

theorem compileMembers_map (hschema : c'.schema = c.schema) (key : String) (items : List Json)
    (h : ∀ e ∈ memberEntries items, MapsEntry c c' f e) :
    compileMembers c' key items = (compileMembers c key items).map (Condition.mapMembers f) := by
  match items with
  | [] => rfl
  | .object fields :: rest =>
      rw [memberEntries, List.forall_mem_append] at h
      rw [compileMembers, compileMembers, compile_map hschema fields h.1, compileMembers_map hschema key rest h.2]
      cases compile c fields with
      | error e => rfl
      | ok cs =>
          cases compileMembers c key rest with
          | error e => simp only [Except.map, Clauses.after, hf.values_mapAll]
          | ok css => rfl
  | .null :: _ | .bool _ :: _ | .number _ :: _ | .string _ :: _ | .array _ :: _ => rfl

end

end

end Docstore.Query
