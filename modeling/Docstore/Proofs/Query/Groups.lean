import Docstore.Proofs.Query.Rows
import Mathlib.Data.List.Forall2

/-!
# Combined queries on rows

What a combination of queries says of a row, by what the queries say that are combined. A negated alternative is
unknown where one of the queries is and none of them holds, so that it does not keep every row that they leave
(`nor_refutes`).
-/

namespace Docstore.Query

open Docstore.Sql (Bindings Truth)

/-! ## Groups -/

/-- How the truths of combined queries are combined. -/
def combinedTruth (op : String) (ts : List Truth) : Truth :=
  if op = "$and" then .all ts else if op = "$nor" then (Truth.any ts).not else .any ts

theorem Condition.truth_constant (row : Row) (b : Bool) :
    (Condition.test (.constant b)).truth row = .ofBool b := by
  cases b
  · exact row.truth_false
  · exact row.truth_true

theorem Condition.truth_combine (row : Row) {op : String} (hop : isLogical op = true)
    (css : List (List Condition)) :
    (combine op css).truth row = combinedTruth op (css.map (truthOfAll row)) := by
  cases css with
  | nil => rcases isLogical_cases hop with rfl | rfl | rfl <;> exact truth_constant row _
  | cons cs css =>
      rw [← truths_eq]
      rcases isLogical_cases hop with rfl | rfl | rfl <;> rfl

/-! ## Queries that are combined -/

section

variable {c : Context} {qs : List Document} {css : List (List Condition)}

theorem compileMembers_of_ok (key : String) (h : qs.map (compile c) = css.map .ok) :
    compileMembers c key (qs.map .object) = .ok css := by
  induction qs generalizing css with
  | nil =>
      cases css with
      | nil => rfl
      | cons cs css => cases h
  | cons q qs ih =>
      cases css with
      | nil => cases h
      | cons cs css =>
          obtain ⟨hq, hqs⟩ := List.cons.inj h
          rw [List.map_cons, compileMembers, hq, ih hqs]
          rfl

theorem validateMembers_of_ok (key : String) (h : ∀ q ∈ qs, validateQuery q = .ok ()) :
    validateMembers key (qs.map .object) = .ok () := by
  induction qs with
  | nil => rfl
  | cons q qs ih =>
      obtain ⟨hq, hqs⟩ := List.forall_mem_cons.mp h
      rw [List.map_cons, validateMembers, hq]
      exact ih hqs

theorem isSkipped_of_isLogical {schema : Schema} {op : String} (hop : isLogical op = true)
    (items : List Json) : isSkipped schema op (.array items) = false := by
  rcases isLogical_cases hop with rfl | rfl | rfl <;> simp [isSkipped, wantsAbsence, Json.get?] <;> decide

theorem compile_of_members {op : String} (hop : isLogical op = true)
    (h : qs.map (compile c) = css.map .ok) :
    compile c [(op, .array (qs.map .object))] = .ok [combine op css] := by
  rw [compile, isSkipped_of_isLogical hop, if_neg Bool.false_ne_true, compileEntry, if_pos hop,
    compileMembers_of_ok op h]
  exact Clauses.append_none _

end

/-- Queries that are accepted, each with a predicate and the values bound with it. -/
def Accepted (c : Context) (qs : List Document) (ps : List (Predicate × Bindings)) : Prop :=
  List.Forall₂ (fun q p => ∃ b, predicate c q b = (.ok p.1, p.2)) qs ps

theorem Accepted.conditions {c : Context} {qs : List Document} {ps : List (Predicate × Bindings)}
    (h : Accepted c qs ps) :
    (∀ q ∈ qs, validateQuery q = .ok ()) ∧ ∃ css : List (List Condition),
      qs.map (compile c) = css.map .ok ∧
      ∀ row, ps.map (fun p => p.1.truth row p.2) = css.map (Condition.truthOfAll row) := by
  unfold Accepted at h
  induction h with
  | nil => exact ⟨List.forall_mem_nil _, [], rfl, fun _ => rfl⟩
  | cons hp _ ih =>
      obtain ⟨b, hp⟩ := hp
      obtain ⟨hvalid, css, hcss, htruths⟩ := ih
      obtain ⟨cs, hv, hcs, -, -⟩ := predicate_ok hp
      obtain ⟨ds, hds, htruth⟩ := predicate_truth hp
      cases hcs.symm.trans hds
      refine ⟨List.forall_mem_cons.mpr ⟨hv, hvalid⟩, cs :: css, ?_, fun row => ?_⟩
      · rw [List.map_cons, hcs, hcss, List.map_cons]
      · rw [List.map_cons, htruth, htruths, List.map_cons]

/-- A combination of accepted queries is accepted and says what they say, combined. -/
theorem predicate_combined {c : Context} {op : String} (hop : isLogical op = true) {qs : List Document}
    {ps : List (Predicate × Bindings)} (h : Accepted c qs ps) (b : Bindings) :
    ∃ p b', predicate c [(op, .array (qs.map .object))] b = (.ok p, b') ∧
      ∀ row, p.truth row b' = combinedTruth op (ps.map fun p => p.1.truth row p.2) := by
  obtain ⟨hvalid, css, hcss, htruths⟩ := h.conditions
  have hcompile := compile_of_members hop hcss
  have hvalidate : validateQuery [(op, .array (qs.map .object))] = .ok () := by
    rw [validateQuery, validateEntry, if_pos hop, validateMembers_of_ok op hvalid]
    rfl
  refine ⟨_, _, predicate_of_ok hvalidate hcompile b, fun row => ?_⟩
  rw [Predicate.truth_number hcompile (Bindings.holds_append_self b _), Condition.truthOfAll_singleton,
    Condition.truth_combine row hop, htruths]

/-! ## Negated alternatives -/

/-- A negated alternative keeps the rows of which every query is false. Of the rows that no query keeps, it
leaves those of which one is unknown. -/
theorem nor_refutes (c : Context) (qs : List Document) (ps : List (Predicate × Bindings))
    (h : Accepted c qs ps) (b : Bindings) :
    ∃ p b', predicate c [("$nor", .array (qs.map .object))] b = (.ok p, b') ∧ ∀ row : Row,
      (p.truth row b' = .yes ↔ ∀ q ∈ ps, q.1.truth row q.2 = .no) ∧
      (p.truth row b' = .yes ↔
        (∀ q ∈ ps, q.1.truth row q.2 ≠ .yes) ∧ ∀ q ∈ ps, q.1.truth row q.2 ≠ .unknown) := by
  obtain ⟨p, b', hp, htruth⟩ := predicate_combined (show isLogical "$nor" = true from rfl) h b
  have hrefuted (row : Row) : p.truth row b' = .yes ↔ ∀ q ∈ ps, q.1.truth row q.2 = .no := by
    have hnor : p.truth row b' = (Truth.any (ps.map fun q => q.1.truth row q.2)).not := htruth row
    rw [hnor, Truth.not_eq_yes, Truth.any_eq_no, List.forall_mem_map]
  refine ⟨p, b', hp, fun row => ⟨hrefuted row, ?_⟩⟩
  have hno (t : Truth) : t = .no ↔ t ≠ .yes ∧ t ≠ .unknown := by cases t <;> decide
  simp only [hrefuted, hno, ← forall_and]

/-- Two texts of which one is looked for. -/
def titleQueries : List Document := [[("title", .null)], [("title", .object [("$eq", .string "a")])]]

theorem nor_refutes_titles :
    ∃ ps p b', Accepted bareContext titleQueries ps ∧
      predicate bareContext [("$nor", .array (titleQueries.map .object))] ⟨1, []⟩ = (.ok p, b') ∧
      ∀ row : Row, p.truth row b' = .yes ↔ ∀ q ∈ ps, q.1.truth row q.2 = .no := by
  have h : Accepted bareContext titleQueries [(_, _), (_, _)] :=
    List.Forall₂.cons ⟨⟨1, []⟩, rfl⟩ (.cons ⟨⟨1, []⟩, rfl⟩ .nil)
  obtain ⟨p, b', hp, hrows⟩ := nor_refutes bareContext titleQueries _ h ⟨1, []⟩
  exact ⟨_, p, b', h, hp, fun row => (hrows row).1⟩

/-- A row without a title has no title to be looked for, and is kept neither by the query nor by its negation. -/
theorem nor_not_complementary :
    ∃ p b₁ q b₂, predicate bareContext [("title", .string "a")] ⟨1, []⟩ = (.ok p, b₁) ∧
      predicate bareContext [("$nor", .array [.object [("title", .string "a")]])] ⟨1, []⟩ = (.ok q, b₂) ∧
      p.truth (.uniform false) b₁ ≠ .yes ∧ q.truth (.uniform false) b₂ ≠ .yes := by
  obtain ⟨p, b₁, hp⟩ : ∃ p b₁, predicate bareContext [("title", .string "a")] ⟨1, []⟩ = (.ok p, b₁) :=
    ⟨_, _, rfl⟩
  have haccepted : Accepted bareContext [[("title", .string "a")]] [(p, b₁)] :=
    List.Forall₂.cons ⟨_, hp⟩ .nil
  obtain ⟨q, b₂, hq, hqtruth⟩ := predicate_combined (show isLogical "$nor" = true from rfl) haccepted ⟨1, []⟩
  obtain ⟨cs, hcs, htruth⟩ := predicate_truth hp
  cases hcs
  have hunknown : p.truth (.uniform false) b₁ = .unknown := by
    rw [htruth]
    rfl
  refine ⟨p, b₁, q, b₂, hp, hq, ?_, ?_⟩
  · rw [hunknown]
    decide
  · rw [hqtruth, List.map_singleton, hunknown]
    decide

end Docstore.Query
