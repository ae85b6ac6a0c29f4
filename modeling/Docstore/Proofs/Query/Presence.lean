import Docstore.Proofs.Query.Membership

/-!
# Presence on rows

What `$exists` says of a row. Main statement: where the schema declares a key as a whole, of any row exactly one
of presence and absence holds; elsewhere, a place inside a declared document included, the demand for absence is
no constraint (`presence_complements`).
-/

namespace Docstore.Query

open Docstore.Sql (Bindings Truth render)

/-- The query for the rows in which a key's value is there, or for those in which it is not. -/
def presence (key : String) (wanted : Bool) : Document := [(key, .object [("$exists", .bool wanted)])]

namespace Operator

def presenceTest (s : Subject) (wanted : Bool) : Test :=
  if wanted then .isNotNull s.operand else .isNull s.operand

theorem constraint_present (now : Time.Instant) (s : Subject) (wanted : Bool) :
    constraint now s [("$exists", .bool wanted)] = Clauses.test (presenceTest s wanted) := by
  cases wanted <;>
    simp [constraint, Fields.get?, dottedMembership, membership, endsConstraint, Clauses.concat,
      Clauses.none_append, Clauses.append_none, notEqual, equal, all, present, isRelativeTime, Json.get?,
      Json.truthy, presenceTest, containedBy, text, nearSphere, withinBox, centerSphere, withinPolygon,
      intersects, regex, compare]

theorem truth_presenceTest (row : Row) (s : Subject) (wanted : Bool) :
    (Condition.test (presenceTest s wanted)).truth row = .ofBool (row.null s.operand.items != wanted) := by
  cases wanted with
  | true => simp [presenceTest]
  | false => simp [presenceTest]

end Operator

/-! ## Queries for presence -/

/-- A key without points is a field's name. -/
theorem root_of_undotted {key : String} (h : isDotted key = false) : root key = key := by
  have hpoint : '.' ∉ key.toList := by simpa [isDotted] using h
  rw [root, components, Text.pieces, Text.splitOn_of_not_mem hpoint]
  exact String.ofList_toList

section

variable {c : Context} {key : String} {wanted : Bool}

theorem isSkipped_presence (hauth : ¬ IsAuthData key) :
    isSkipped c.schema key (.object [("$exists", .bool wanted)]) =
      ((c.schema.fieldType? key).isNone && !wanted) := by
  rw [isSkipped, (isAuthDataKey_eq_false_iff key).mpr hauth]
  cases wanted <;> rfl

theorem predicate_of_not_skipped (hkey : ¬ IsUnsafe key)
    (hskip : isSkipped c.schema key (.object [("$exists", .bool wanted)]) = false) (b : Bindings) :
    ∃ p b', predicate c (presence key wanted) b = (.ok p, b') ∧ render p.sql ≠ "" ∧
      ∀ row, p.truth row b' = .ofBool (row.null (Operand.text key).items != wanted) := by
  have hvalid := (isValidKey_iff key).mpr hkey
  have hentry : compileEntry c key (.object [("$exists", .bool wanted)]) =
      .ok [.test (Operator.presenceTest (c.subject key) wanted)] := by
    rw [compileEntry_of_not_logical c (isLogical_of_isValidKey hvalid), fieldClauses_object rfl,
      Operator.constraint_present]
    rfl
  have hcompile : compile c (presence key wanted) =
      .ok [.test (Operator.presenceTest (c.subject key) wanted)] := by
    rw [presence, compile, hskip, if_neg Bool.false_ne_true, hentry]
    exact Clauses.append_none _
  refine ⟨_, _, predicate_of_ok ((validateQuery_ok_iff _).mpr hvalid) hcompile b,
    (Condition.conjunction_hasWords (List.cons_ne_nil _ _)).render_ne _, fun row => ?_⟩
  rw [Predicate.truth_number hcompile (Bindings.holds_append_self b _), Condition.truthOfAll_singleton]
  exact Operator.truth_presenceTest row (c.subject key) wanted

theorem predicate_of_skipped (hkey : ¬ IsUnsafe key)
    (hskip : isSkipped c.schema key (.object [("$exists", .bool wanted)]) = true) (b : Bindings) :
    ∃ p b', predicate c (presence key wanted) b = (.ok p, b') ∧ render p.sql = "" ∧
      ∀ row, p.truth row b' = .yes := by
  have hcompile : compile c (presence key wanted) = .ok [] := by
    rw [presence, compile, if_pos hskip, compile]
    rfl
  have hvalid := (isValidKey_iff key).mpr hkey
  exact ⟨_, _, predicate_of_ok ((validateQuery_ok_iff _).mpr hvalid) hcompile b, rfl, fun row => rfl⟩

end

/-- Of any row exactly one of presence and absence holds, as far as the schema declares the key as a whole. For
any other key, such as a place inside a document, absence is no constraint and holds of the rows in which the
value is there as well. Auth data are not constrained. -/
theorem presence_complements (c : Context) (key : String) (hkey : ¬ IsUnsafe key) (b₁ b₂ : Bindings) :
    ∃ p b₁' q b₂',
      predicate c (presence key true) b₁ = (.ok p, b₁') ∧
      predicate c (presence key false) b₂ = (.ok q, b₂') ∧
      (IsAuthData key → render p.sql = "" ∧ render q.sql = "") ∧
      (¬ IsAuthData key →
        render p.sql ≠ "" ∧
        (∀ row : Row, p.truth row b₁' = .yes ↔ row.null (Operand.text key).items = false) ∧
        ((c.schema.fieldType? key).isSome ∨
            isDotted key = false ∧ (c.schema.fieldType? (root key)).isSome →
          render q.sql ≠ "" ∧ ∀ row : Row, p.truth row b₁' = .yes ↔ q.truth row b₂' ≠ .yes) ∧
        (c.schema.fieldType? key = none →
          render q.sql = "" ∧ ∀ row : Row, q.truth row b₂' = .yes)) := by
  by_cases hauth : IsAuthData key
  · obtain ⟨p, hp, hpsql⟩ := predicate_authData (c := c) hkey hauth [("$exists", .bool true)] b₁
    obtain ⟨q, hq, hqsql⟩ := predicate_authData (c := c) hkey hauth [("$exists", .bool false)] b₂
    exact ⟨p, b₁, q, b₂, hp, hq, fun _ => ⟨hpsql, hqsql⟩, fun h => absurd hauth h⟩
  have hpresent : isSkipped c.schema key (.object [("$exists", .bool true)]) = false := by
    rw [isSkipped_presence hauth, Bool.not_true, Bool.and_false]
  obtain ⟨p, b₁', hp, hpsql, hptruth⟩ := predicate_of_not_skipped hkey hpresent b₁
  have hpyes (row : Row) : p.truth row b₁' = .yes ↔ row.null (Operand.text key).items = false := by
    simp [hptruth]
  cases htype : c.schema.fieldType? key with
  | none =>
      have habsent : isSkipped c.schema key (.object [("$exists", .bool false)]) = true := by
        rw [isSkipped_presence hauth, htype]
        rfl
      obtain ⟨q, b₂', hq, hqsql, hqtruth⟩ := predicate_of_skipped hkey habsent b₂
      refine ⟨p, b₁', q, b₂', hp, hq, fun h => absurd h hauth, fun _ => ⟨hpsql, hpyes, ?_, ?_⟩⟩
      · rintro (hdeclared | ⟨hdot, hdeclared⟩)
        · cases hdeclared
        · rw [root_of_undotted hdot, htype] at hdeclared
          cases hdeclared
      · exact fun _ => ⟨hqsql, hqtruth⟩
  | some type =>
      have habsent : isSkipped c.schema key (.object [("$exists", .bool false)]) = false := by
        rw [isSkipped_presence hauth, htype]
        rfl
      obtain ⟨q, b₂', hq, hqsql, hqtruth⟩ := predicate_of_not_skipped hkey habsent b₂
      refine ⟨p, b₁', q, b₂', hp, hq, fun h => absurd h hauth, fun _ => ⟨hpsql, hpyes, ?_, ?_⟩⟩
      · refine fun _ => ⟨hqsql, fun row => ?_⟩
        rw [hptruth, hqtruth]
        cases row.null (Operand.text key).items <;> decide
      · exact fun h => nomatch h

theorem presence_complements_title :
    ∃ p b₁' q b₂',
      predicate variedContext (presence "title" true) ⟨1, []⟩ = (.ok p, b₁') ∧
      predicate variedContext (presence "title" false) ⟨1, []⟩ = (.ok q, b₂') ∧
      render q.sql ≠ "" ∧ ∀ row : Row, p.truth row b₁' = .yes ↔ q.truth row b₂' ≠ .yes := by
  have hkey : ¬ IsUnsafe "title" := (isValidKey_iff _).mp (by decide)
  have hauth : ¬ IsAuthData "title" := (isAuthDataKey_eq_false_iff _).mp (by decide)
  obtain ⟨p, b₁', q, b₂', hp, hq, -, hrows⟩ :=
    presence_complements variedContext "title" hkey ⟨1, []⟩ ⟨1, []⟩
  obtain ⟨-, -, hcomplement, -⟩ := hrows hauth
  obtain ⟨hqsql, hiff⟩ := hcomplement (.inr ⟨rfl, rfl⟩)
  exact ⟨p, b₁', q, b₂', hp, hq, hqsql, hiff⟩

/-- At a place inside a declared document both demands hold of a row in which the value is there, and absence is
no constraint. -/
theorem presence_not_complementary :
    (variedContext.schema.fieldType? (root "meta.tags")).isSome ∧
    ∃ p b₁' q b₂',
      predicate variedContext (presence "meta.tags" true) ⟨1, []⟩ = (.ok p, b₁') ∧
      predicate variedContext (presence "meta.tags" false) ⟨1, []⟩ = (.ok q, b₂') ∧
      render q.sql = "" ∧
      ¬ (p.truth (.uniform true) b₁' = .yes ↔ q.truth (.uniform true) b₂' ≠ .yes) := by
  have hkey : ¬ IsUnsafe "meta.tags" := (isValidKey_iff _).mp (by decide)
  have hauth : ¬ IsAuthData "meta.tags" := (isAuthDataKey_eq_false_iff _).mp (by decide)
  have hpresent : isSkipped variedContext.schema "meta.tags" (.object [("$exists", .bool true)]) = false :=
    isSkipped_presence hauth
  have habsent : isSkipped variedContext.schema "meta.tags" (.object [("$exists", .bool false)]) = true :=
    isSkipped_presence hauth
  obtain ⟨p, b₁', hp, -, hptruth⟩ := predicate_of_not_skipped hkey hpresent ⟨1, []⟩
  obtain ⟨q, b₂', hq, hqsql, hqtruth⟩ := predicate_of_skipped hkey habsent ⟨1, []⟩
  refine ⟨rfl, p, b₁', q, b₂', hp, hq, hqsql, fun h => ?_⟩
  exact h.mp (hptruth (.uniform true)) (hqtruth (.uniform true))

end Docstore.Query
