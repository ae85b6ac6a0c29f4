import Docstore.Proofs.Sql.Unfolding
import Docstore.Proofs.Query.Mapping
import Docstore.Proofs.Query.KeySafety

/-!
# Letter case in predicates

Without regard to letter case a query becomes the predicate that it becomes with it, but for the equalities of
names and addresses of users with texts. Main statement: `ignoreCase_only_identity`.
-/

namespace Docstore.Query

open Docstore.Sql (Bindings Fragment Template Unfolded identityFields render)
open Clauses (Only)

/-! ## Strict tests -/

/-- The test itself, or the strict equality in the place of one but for letter case. -/
def Test.strict : Test → Test
  | equalsFolded x v => equals x v
  | t => t

theorem Test.strict_of_not_folded {t : Test} (h : t.isFolded = false) : t.strict = t := by
  cases t with
  | equalsFolded x v => cases h
  | _ => rfl

theorem keepsData_strict : KeepsData Test.strict where
  constant := fun _ => rfl
  values := fun t => by
    cases t with
    | equalsFolded x v => simp [Test.strict, Test.template]
    | _ => rfl
  near := fun t => by cases t <;> rfl
  search := fun t => by cases t <;> rfl

/-! ## Entries -/

section

variable (schema : Schema) (now : Time.Instant)

/-- A constraint that regards letter case in everything. -/
theorem fieldClauses_not_folded (key : String) (value : Json) :
    Only (fun t => t.isFolded = false) (fieldClauses ⟨schema, false, now⟩ key value) := by
  simp only [fieldClauses, Bool.false_and, Bool.false_eq_true, ite_false]
  split
  · exact Only.test rfl
  · split
    · exact (typedClauses_only _ _ _).mono fun t ht => ht.2
    · exact (Operator.constraint_only _ _ _).mono fun t ht => ht.2
  · exact (literalClauses_only _ _).mono fun t ht => ht.2

theorem isIdentity_iff (key : String) : (key == "username" || key == "email") = true ↔ key ∈ identityFields := by
  simp [identityFields]

theorem fieldClauses_of_not_identity {key : String} {value : Json}
    (h : key ∈ identityFields → value.isString = false) :
    fieldClauses ⟨schema, true, now⟩ key value = fieldClauses ⟨schema, false, now⟩ key value := by
  have hfalse : ((key == "username" || key == "email") && value.isString) = false := by
    rw [Bool.and_eq_false_imp]
    exact fun hkey => h ((isIdentity_iff key).mp hkey)
  simp only [fieldClauses, Bool.true_and, Bool.false_and, hfalse]

theorem fieldClauses_identity {key : String} (h : key ∈ identityFields) (x : String) :
    fieldClauses ⟨schema, true, now⟩ key (.string x) = .test (.equalsFolded (.text key) (.string x)) ∧
      fieldClauses ⟨schema, false, now⟩ key (.string x) = .test (.equals (.text key) (.string x)) := by
  have hdotted : ∀ key ∈ identityFields, isDotted key = false := by decide
  constructor
  · simp only [fieldClauses, (isIdentity_iff key).mpr h, Json.isString, Bool.true_and, if_true]
    rfl
  · simp only [fieldClauses, Bool.false_and, Bool.false_eq_true, ite_false, literalClauses, Subject.isDotted,
      hdotted key h]
    rfl

theorem mapsEntry_strict (e : String × Json) :
    MapsEntry ⟨schema, true, now⟩ ⟨schema, false, now⟩ Test.strict e := by
  obtain ⟨key, value⟩ := e
  by_cases h : key ∈ identityFields ∧ value.isString = true
  · obtain ⟨hkey, hvalue⟩ := h
    obtain ⟨x, rfl⟩ : ∃ x, value = .string x := by
      cases value with
      | string x => exact ⟨x, rfl⟩
      | _ => cases hvalue
    obtain ⟨hfolded, hstrict⟩ := fieldClauses_identity schema now hkey x
    rw [MapsEntry, hfolded, hstrict]
    rfl
  · have hsame : fieldClauses ⟨schema, true, now⟩ key value = fieldClauses ⟨schema, false, now⟩ key value :=
      fieldClauses_of_not_identity schema now (by simpa using h)
    have honly := fieldClauses_not_folded schema now key value
    rw [MapsEntry, hsame]
    cases hclauses : fieldClauses ⟨schema, false, now⟩ key value with
    | error e => rfl
    | ok cs =>
        have hcs := Condition.mapAll_eq_self cs fun t ht => t.strict_of_not_folded (honly cs hclauses t ht)
        exact (congrArg Except.ok hcs).symm

/-- An equality but for letter case is one of an identity field. -/
def Test.FoldsIdentity (t : Test) : Prop :=
  ∀ x v, t = .equalsFolded x v → ∃ key ∈ identityFields, x = .text key

theorem Test.constant_foldsIdentity (b : Bool) : (constant b).FoldsIdentity := by
  intro x v he
  cases he

theorem fieldClauses_foldsIdentity (key : String) (value : Json) :
    Only Test.FoldsIdentity (fieldClauses ⟨schema, true, now⟩ key value) := by
  by_cases h : key ∈ identityFields ∧ value.isString = true
  · obtain ⟨hkey, hvalue⟩ := h
    cases value with
    | string x =>
        rw [(fieldClauses_identity schema now hkey x).1]
        refine Only.test fun y v he => ?_
        cases he
        exact ⟨key, hkey, rfl⟩
    | _ => cases hvalue
  · rw [fieldClauses_of_not_identity schema now (by simpa using h)]
    refine (fieldClauses_not_folded schema now key value).mono fun t ht x v he => ?_
    rw [he] at ht
    cases ht

end

/-! ## The text of tests -/

section

variable {keys : String → Prop}

theorem Operand.strict_step (c : String) : Template.Strict [step c] := by
  intro s hs
  unfold step at hs
  split at hs
  · rename_i hc
    simp only [isIndex, Bool.and_eq_true, List.all_eq_true] at hc
    obtain rfl : s = c := by simpa using hs
    exact fun hw => absurd (hc.2 'W' hw) (by decide)
  · simp at hs

theorem Operand.strict_steps {last : String} (hlast : 'W' ∉ last.toList) (cs : List String) :
    Template.Strict (steps last cs) := by
  have hwords : Template.Strict (Sql.words last) := Template.strict_words.mpr hlast
  induction cs with
  | nil => exact Template.strict_nil
  | cons c cs ih =>
      cases cs with
      | nil => exact Template.strict_append.mpr ⟨hwords, strict_step c⟩
      | cons d cs =>
          have harrow : Template.Strict (Sql.words "->") := Template.strict_words.mpr (by decide)
          exact Template.strict_append.mpr ⟨harrow, Template.strict_append.mpr ⟨strict_step c, ih⟩⟩

theorem Operand.template_strict {x : Operand} (h : x.IsOver keys) : Template.Strict x.template := by
  have hpath {last : String} (hlast : 'W' ∉ last.toList) (key : String) : Template.Strict (path last key) :=
    Template.strict_append.mpr ⟨Template.strict_named (root key), strict_steps hlast _⟩
  cases x with
  | column name => exact Template.strict_named name
  | text key => exact hpath (by decide) key
  | json key => exact hpath (by decide) key
  | cast key type =>
      have htype : 'W' ∉ (") AS " ++ type ++ ")").toList := by
        have hm := h.2
        simp only [castTypes, List.mem_cons, List.not_mem_nil, or_false] at hm
        rcases hm with rfl | rfl <;> decide
      exact Template.strict_append.mpr ⟨Template.strict_append.mpr ⟨Template.strict_words.mpr (by decide),
        hpath (by decide) key⟩, Template.strict_words.mpr htype⟩
  | list name native => cases native <;> simp +decide [template]

theorem Test.template_strict {t : Test} (h : t.IsOver keys) (hstrict : t.isFolded = false) :
    Template.Strict t.template := by
  have hx {x : Operand} (h : x.IsOver keys) : Template.Strict x.template := x.template_strict h
  cases t with
  | equalsFolded x v => cases hstrict
  | constant b => cases b <;> simp +decide [template]
  | inEmpty b => cases b <;> simp +decide [template]
  | compares x c v => cases c <;> simp +decide [template, Comparison.sql, hx h]
  | matchesPattern x ignoreCase pattern => cases ignoreCase <;> simp +decide [template, Sql.boundText, hx h]
  | isInside field shape literal =>
      have hshape : 'W' ∉ ("::text::" ++ shape).toList := by
        have hs := h.2
        simp only [areaShapes, List.mem_cons, List.not_mem_nil, or_false] at hs
        rcases hs with rfl | rfl <;> decide
      simp +decide only [template, Template.strict_append, Template.strict_words, Template.strict_named,
        Sql.boundText, Template.strict_value, hshape, not_false_eq_true, and_self]
  | matchesText search =>
      have hfield : Template.Strict (Operand.text search.field).template := hx (x := .text search.field) h
      simp +decide [template, TextSearch.document, TextSearch.query, TextSearch.configuration, Sql.boundText, hfield]
  | covers | isWithin | hasDistance =>
      simp +decide [template, Near.distance, Sql.boundText, Sql.boundPoint, Sql.boundDouble]
  | _ => simp +decide [template, Sql.boundText, Sql.boundList, Sql.boundPoint, Sql.boundDouble, hx h]

theorem Test.template_unfolds {t : Test} (h : t.IsOver keys) (hfolds : t.FoldsIdentity) :
    Template.Unfolds t.template t.strict.template := by
  cases hfolded : t.isFolded with
  | false =>
      rw [t.strict_of_not_folded hfolded]
      exact (t.template_strict h hfolded).unfolds
  | true =>
      cases t with
      | equalsFolded x v =>
          obtain ⟨key, hkey, rfl⟩ := hfolds x v rfl
          have hname : ∀ key ∈ identityFields, (Operand.text key).template = Sql.named key := by
            intro key hkey
            simp only [identityFields, List.mem_cons, List.not_mem_nil, or_false] at hkey
            rcases hkey with rfl | rfl <;> rfl
          rw [strict, template, template, hname key hkey]
          exact .replace hkey v .nil
      | _ => cases hfolded

end

/-! ## The text of conditions -/

namespace Condition

variable {keys : String → Prop}

/-- What is known of the tests that a query becomes. -/
abbrev Known (keys : String → Prop) (t : Test) : Prop := t.IsOver keys ∧ t.FoldsIdentity

mutual

theorem template_unfolds (c : Condition) (h : ∀ t ∈ c.tests, Known keys t) :
    Template.Unfolds c.template (c.map Test.strict).template := by
  have hwords (s : String) (hs : 'W' ∉ s.toList) : Template.Unfolds (Sql.words s) (Sql.words s) :=
    (Template.strict_words.mpr hs).unfolds
  match c with
  | .test t =>
      obtain ⟨hover, hfolds⟩ := h t (.head _)
      rw [template, map, template]
      exact t.template_unfolds hover hfolds
  | .negate c =>
      rw [template, map, template]
      exact (hwords "NOT " (by decide)).append (template_unfolds c h)
  | .anyOf css =>
      rw [template, map, template, templates_eq_join, templates_eq_join]
      exact ((hwords "(" (by decide)).append (.join (by decide) (members_unfold css h))).append
        (hwords ")" (by decide))
  | .allOf css =>
      rw [template, map, template, templates_eq_join, templates_eq_join]
      exact ((hwords "(" (by decide)).append (.join (by decide) (members_unfold css h))).append
        (hwords ")" (by decide))

theorem conjuncts_unfold (cs : List Condition) (h : ∀ t ∈ testsOfAll cs, Known keys t) :
    List.Forall₂ Template.Unfolds (cs.map template) ((mapAll Test.strict cs).map template) := by
  match cs with
  | [] => exact .nil
  | c :: cs =>
      rw [testsOfAll_cons, List.forall_mem_append] at h
      exact .cons (template_unfolds c h.1) (conjuncts_unfold cs h.2)

theorem members_unfold (css : List (List Condition)) (h : ∀ t ∈ testsOfMembers css, Known keys t) :
    List.Forall₂ Template.Unfolds (css.map member) ((mapMembers Test.strict css).map member) := by
  match css with
  | [] => exact .nil
  | cs :: css =>
      rw [testsOfMembers_cons, List.forall_mem_append] at h
      refine .cons ?_ (members_unfold css h.2)
      match cs with
      | [] => exact (Template.strict_words.mpr (by decide)).unfolds
      | c :: cs =>
          simp only [mapAll, member]
          rw [conjunction_eq_join, conjunction_eq_join]
          exact .join (by decide) (conjuncts_unfold (c :: cs) h.1)

end

theorem conjunction_unfolds (cs : List Condition) (h : ∀ t ∈ testsOfAll cs, Known keys t) :
    Template.Unfolds (conjunction cs) (conjunction (mapAll Test.strict cs)) := by
  rw [conjunction_eq_join, conjunction_eq_join]
  exact .join (by decide) (conjuncts_unfold cs h)

/-- Conditions over valid keys and their strict ones, as they are sent. -/
theorem render_unfolded (hkeys : ∀ key, keys key → isValidKey key = true) (cs : List Condition)
    (h : ∀ t ∈ testsOfAll cs, Known keys t) (next : Nat) :
    Unfolded (render ((conjunction cs).number next)).toList
      (render ((conjunction (mapAll Test.strict cs)).number next)).toList := by
  have hreserved {c : Char} (hc : isReserved c = true) {s : String} (hs : ∀ c ∈ s.toList, isReserved c = false) :
      c ∉ s.toList := by
    intro hm
    rw [hs c hm] at hc
    cases hc
  rw [render, render, String.toList_ofList, String.toList_ofList]
  refine (conjunction_unfolds cs h).chars ?_ ?_ next ((conjunction_clean cs fun t ht => (h t ht).1).1 next)
  · exact fun s hs => ⟨hreserved rfl (hs.isReserved hkeys), hreserved rfl (hs.isReserved hkeys)⟩
  · exact fun s hs => ⟨hreserved rfl (hs.isReserved hkeys), hreserved rfl (hs.isReserved hkeys)⟩

end Condition

/-! ## Predicates -/

section

variable (schema : Schema) (now : Time.Instant) (q : Document)

/-- With regard to letter case, a query has the same conditions, compared strictly. -/
theorem compile_strict :
    compile ⟨schema, false, now⟩ q = (compile ⟨schema, true, now⟩ q).map (Condition.mapAll Test.strict) :=
  compile_map keepsData_strict (by rfl) q fun e _ => mapsEntry_strict schema now e

/-- Without a text for an identity field, letter case does not count. -/
theorem compile_of_not_identity (h : ∀ e ∈ fieldEntries q, e.1 ∈ identityFields → e.2.isString = false) :
    compile ⟨schema, true, now⟩ q = compile ⟨schema, false, now⟩ q := by
  have hself (r : Clauses) : r.map (Condition.mapAll id) = r := by
    cases r with
    | error e => rfl
    | ok cs => exact congrArg Except.ok (Condition.mapAll_eq_self cs fun _ _ => rfl)
  have hsame : compile ⟨schema, true, now⟩ q = (compile ⟨schema, false, now⟩ q).map (Condition.mapAll id) := by
    refine compile_map .id (by rfl) q fun e he => ?_
    rw [MapsEntry, hself]
    exact fieldClauses_of_not_identity schema now (h e he)
  rw [hsame, hself]

end

/-- The same query with and without regard to letter case: both are refused alike, or both have the same values,
orders and search, and the strict text is what the other one becomes when its equalities of identity fields but
for letter case are replaced. Without a text for such a field, there is no difference. -/
theorem ignoreCase_only_identity (schema : Schema) (now : Time.Instant) (q : Document) (b : Bindings) :
    ((∃ f vs, predicate ⟨schema, true, now⟩ q b = (.error f, b.append vs) ∧
        predicate ⟨schema, false, now⟩ q b = (.error f, b.append vs)) ∨
      ∃ p p' vs, predicate ⟨schema, true, now⟩ q b = (.ok p, b.append vs) ∧
        predicate ⟨schema, false, now⟩ q b = (.ok p', b.append vs) ∧
        p.orders = p'.orders ∧ p.search = p'.search ∧
        ∀ text, Unfolded (render p.sql).toList text ↔ text = (render p'.sql).toList) ∧
    ((∀ e ∈ fieldEntries q, e.1 ∈ identityFields → e.2.isString = false) →
      predicate ⟨schema, true, now⟩ q b = predicate ⟨schema, false, now⟩ q b) := by
  have hmap := compile_strict schema now q
  constructor
  · cases hvalid : validateQuery q with
    | error f =>
        refine .inl ⟨f, [], ?_, ?_⟩
        · rw [predicate, compileQuery, hvalid]
          rfl
        · rw [predicate, compileQuery, hvalid]
          rfl
    | ok _ =>
        cases hcompile : compile ⟨schema, true, now⟩ q with
        | error e =>
            rw [hcompile] at hmap
            refine .inl ⟨e.fault, e.bound, ?_, ?_⟩
            · rw [predicate, compileQuery, hvalid, hcompile]
            · rw [predicate, compileQuery, hvalid, hmap]
              rfl
        | ok cs =>
            rw [hcompile] at hmap
            have hfolds : ∀ t ∈ Condition.testsOfAll cs, t.FoldsIdentity :=
              compile_forall Test.constant_foldsIdentity ⟨schema, true, now⟩ q
                (fun e _ => fieldClauses_foldsIdentity schema now e.1 e.2) cs hcompile
            have hover := compile_only _ q cs hcompile
            have hunfolded := Condition.render_unfolded (validateQuery_ok q hvalid) cs
              (fun t ht => ⟨hover t ht, hfolds t ht⟩) b.next
            have hpredicate := predicate_of_ok hvalid hmap b
            rw [keepsData_strict.values_mapAll] at hpredicate
            refine .inr ⟨_, _, Condition.values cs, predicate_of_ok hvalid hcompile b, hpredicate,
              (keepsData_strict.orders_mapAll b.next cs).symm, (keepsData_strict.search_mapAll cs).symm,
              fun text => ?_⟩
            constructor
            · exact fun h => h.unique hunfolded
            · rintro rfl
              exact hunfolded
  · intro h
    rw [predicate, predicate, compileQuery, compileQuery, compile_of_not_identity schema now q h]

/-- A name or a title, and no address. -/
def accountQuery : Document :=
  [("$or", .array [.object [("username", .string "Ann")], .object [("title", .string "x")]]), ("email", .null)]

theorem ignoreCase_only_identity_account :
    (∃ p p' b', predicate ⟨bareContext.schema, true, ⟨0, 0⟩⟩ accountQuery ⟨1, []⟩ = (.ok p, b') ∧
      predicate ⟨bareContext.schema, false, ⟨0, 0⟩⟩ accountQuery ⟨1, []⟩ = (.ok p', b') ∧
      render p.sql = "(LOWER(\"username\") = LOWER($1) OR \"title\" = $2) AND \"email\" IS NULL" ∧
      render p'.sql = "(\"username\" = $1 OR \"title\" = $2) AND \"email\" IS NULL" ∧
      Unfolded (render p.sql).toList (render p'.sql).toList) ∧
    predicate ⟨bareContext.schema, true, ⟨0, 0⟩⟩ [("title", .string "x")] ⟨1, []⟩ =
      predicate ⟨bareContext.schema, false, ⟨0, 0⟩⟩ [("title", .string "x")] ⟨1, []⟩ := by
  constructor
  · obtain ⟨h, -⟩ := ignoreCase_only_identity bareContext.schema ⟨0, 0⟩ accountQuery ⟨1, []⟩
    obtain ⟨p₁, p₁', b', hp₁, hp₁', ht, ht'⟩ :
        ∃ p p' b', predicate ⟨bareContext.schema, true, ⟨0, 0⟩⟩ accountQuery ⟨1, []⟩ = (.ok p, b') ∧
          predicate ⟨bareContext.schema, false, ⟨0, 0⟩⟩ accountQuery ⟨1, []⟩ = (.ok p', b') ∧
          render p.sql = "(LOWER(\"username\") = LOWER($1) OR \"title\" = $2) AND \"email\" IS NULL" ∧
          render p'.sql = "(\"username\" = $1 OR \"title\" = $2) AND \"email\" IS NULL" :=
      ⟨_, _, _, rfl, rfl, by decide, by decide⟩
    rcases h with ⟨f, vs, hf, -⟩ | ⟨p, p', vs, hp, hp', -, -, htext⟩
    · cases hp₁.symm.trans hf
    · cases hp₁.symm.trans hp
      cases hp₁'.symm.trans hp'
      exact ⟨_, _, _, hp₁, hp₁', ht, ht', (htext _).mpr rfl⟩
  · refine (ignoreCase_only_identity bareContext.schema ⟨0, 0⟩ [("title", .string "x")] ⟨1, []⟩).2 ?_
    decide

end Docstore.Query
