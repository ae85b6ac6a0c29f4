import Docstore.Proofs.Query.Membership

/-!
# Differences and nulls

What `$ne` says of a row that has nothing to differ from. Main statement: a row without the value differs from
every value, unless the field is a list (`inequality_keeps_nulls`).
-/

namespace Docstore.Query

open Docstore.Sql (Bindings Fragment Template Truth render words)

namespace Operator

theorem constraint_notEqual (now : Time.Instant) (s : Subject) (v : Json) :
    constraint now s [("$ne", v)] = notEqual s (some v) := by
  cases hends : endsConstraint s (some v) <;>
    simp [constraint, Fields.get?, dottedMembership, membership, hends, Clauses.concat,
      Clauses.none_append, Clauses.append_none, equal, all, present, containedBy, text, nearSphere,
      withinBox, centerSphere, withinPolygon, intersects, regex, compare]

section

variable {s : Subject} {v : Json} {cs : List Condition} {row : Row}

theorem null_comparedWith (h : row.null s.operand.items = true) :
    row.null (s.comparedWith v).items = true := by
  unfold Subject.comparedWith
  split
  · exact row.cast_null s.key _ h
  · exact h

/-- What is not there differs from every value. -/
theorem notEqual_of_null (harray : s.isArray = false) (hv : v.isNull = false)
    (h : notEqual s (some v) = .ok cs) (hnull : row.null s.operand.items = true) :
    Condition.truthOfAll row cs = .yes := by
  simp only [notEqual, harray, hv, Bool.false_eq_true, if_false] at h
  split at h
  · -- A point is bound, so the value has to be one.
    cases hpoint : Geometry.point v with
    | error f =>
        rw [hpoint] at h
        cases h
    | ok p =>
        rw [hpoint] at h
        cases h
        simp [Condition.truthOfAll, hnull]
  · split at h
    · cases h
    · cases h
      simp [Condition.truthOfAll, differs, null_comparedWith hnull]

theorem null_list (h : row.null (Operand.column s.key).items = true) : row.null s.list.items = true := by
  unfold Subject.list
  cases s.isStringArray with
  | true => rw [row.list_null, h]
  | false => exact h

/-- Whether a list that is not there lacks a value is unknown. -/
theorem notEqual_of_null_list (harray : s.isArray = true) (h : notEqual s (some v) = .ok cs)
    (hnull : row.null (Operand.column s.key).items = true) :
    Condition.truthOfAll row cs = .unknown := by
  have hunknown := (Condition.truth_hasAny row s.list [v]).mpr (null_list hnull)
  simp only [notEqual, harray, if_true] at h
  cases h
  simp [Condition.truthOfAll, hunknown, Truth.not]

end

/-- What a difference from null becomes. -/
def differsFromNull (s : Subject) : Condition :=
  if s.isArray then .negate (.test (.hasAny s.list [.null])) else .test (.isNotNull s.operand)

theorem notEqual_null (s : Subject) : notEqual s (some .null) = Clauses.one (differsFromNull s) := by
  unfold notEqual differsFromNull
  cases s.isArray <;> rfl

theorem render_differsFromNull {s : Subject} (harray : s.isArray = false) (next : Nat) :
    render ((differsFromNull s).template.number next) =
      render (s.operand.template.number next) ++ " IS NOT NULL" := by
  rw [differsFromNull, if_neg (by simp [harray]), Condition.template, Test.template, Template.number_append,
    Fragment.render_append, Template.render_words]

theorem render_differsFromNull_list {s : Subject} (harray : s.isArray = true) (next : Nat) :
    render ((differsFromNull s).template.number next) =
      "NOT array_contains(" ++ render (s.list.template.number next) ++ ", " ++
        render [.placeholder next] ++ ")" := by
  have hlist : render (Template.number next (Sql.boundList [.null])) = render [.placeholder next] := rfl
  have hopening : "NOT " ++ "array_contains(" = "NOT array_contains(" := by decide
  rw [differsFromNull, if_pos harray, Condition.template, Template.render_words_append, Condition.template,
    Test.template]
  simp only [Template.number_append, Fragment.render_append, Template.render_words, Template.values_append,
    Template.values_words, Operand.values_template, List.append_nil, List.length_nil, Nat.add_zero, hlist,
    ← hopening, String.append_assoc]

theorem values_differsFromNull (s : Subject) :
    (differsFromNull s).template.values = if s.isArray then [.json (.array [.null])] else [] := by
  cases harray : s.isArray <;>
    simp [differsFromNull, harray, Condition.template, Test.template, Operand.values_template,
      Sql.boundList]

end Operator

/-- The conditions of a difference that is compiled. -/
theorem predicate_notEqual {c : Context} {key : String} {v : Json} {b b' : Bindings} {p : Predicate}
    (hauth : ¬ IsAuthData key) (h : predicate c [(key, .object [("$ne", v)])] b = (.ok p, b')) :
    ∃ cs, Operator.notEqual (c.subject key) (some v) = .ok cs ∧
      ∀ row, p.truth row b' = Condition.truthOfAll row cs := by
  obtain ⟨cs, hvalid, hcs, rfl, rfl⟩ := predicate_ok h
  have htruth := Predicate.truth_number hcs (Bindings.holds_append_self b _)
  have hne : "$ne" ≠ "__type" ∧ "$ne" ≠ "$exists" := by decide
  have hcompile := compile_operator (c := c) ((validateQuery_ok_iff _).mp hvalid)
    ((isAuthDataKey_eq_false_iff key).mpr hauth) hne.1 hne.2 v
  rw [Operator.constraint_notEqual, hcs] at hcompile
  exact ⟨cs, (required_ok_iff.mp hcompile.symm).1, htruth⟩

theorem predicate_differsFromNull {c : Context} {key : String} (hkey : ¬ IsUnsafe key)
    (hauth : ¬ IsAuthData key) (b : Bindings) :
    ∃ p b', predicate c [(key, .object [("$ne", .null)])] b = (.ok p, b') ∧
      p.sql = (Operator.differsFromNull (c.subject key)).template.number b.next ∧
      b' = b.append (Operator.differsFromNull (c.subject key)).template.values := by
  have hne : "$ne" ≠ "__type" ∧ "$ne" ≠ "$exists" := by decide
  have hconstraint := (Operator.constraint_notEqual c.now (c.subject key) .null).trans
    (Operator.notEqual_null _)
  obtain ⟨hp, -⟩ := predicate_operator hkey hauth hne.1 hne.2 hconstraint (List.cons_ne_nil _ _) b
  exact ⟨_, _, hp, rfl, rfl⟩

/-- A row without the value differs from every value that is not null, and what differs from null is there.
Of a list that is not there the difference is unknown, and its difference from null is one from a member. -/
theorem inequality_keeps_nulls (c : Context) (key : String) (b : Bindings) :
    (∀ (v : Json) (p : Predicate) (b' : Bindings), v.isNull = false →
      predicate c [(key, .object [("$ne", v)])] b = (.ok p, b') → ∀ row : Row,
        ((c.subject key).isArray = false →
          (row.null (Operand.text key).items = true ∨ row.null (Operand.json key).items = true) →
            p.truth row b' = .yes) ∧
        ((c.subject key).isArray = true → ¬ IsAuthData key →
          row.null (Operand.column key).items = true → p.truth row b' = .unknown)) ∧
    (¬ IsUnsafe key → ∃ p b', predicate c [(key, .object [("$ne", .null)])] b = (.ok p, b') ∧
      (IsAuthData key → render p.sql = "" ∧ b' = b) ∧
      (¬ IsAuthData key → (c.subject key).isArray = false →
        render p.sql = render ((Operand.text key).template.number b.next) ++ " IS NOT NULL" ∧ b' = b) ∧
      (¬ IsAuthData key → (c.subject key).isArray = true →
        render p.sql = "NOT array_contains(" ++ render ((c.subject key).list.template.number b.next) ++
          ", " ++ render [.placeholder b.next] ++ ")" ∧
        b' = b.append [.json (.array [.null])])) := by
  constructor
  · intro v p b' hv h row
    by_cases hauth : IsAuthData key
    · obtain ⟨hsql, -⟩ := predicate_eq_empty ((isAuthDataKey_iff key).mpr hauth) h
      refine ⟨fun _ _ => ?_, fun _ hnot => absurd hauth hnot⟩
      rw [Predicate.truth, Predicate.isEmpty, hsql]
      rfl
    · obtain ⟨cs, hcs, htruth⟩ := predicate_notEqual hauth h
      rw [htruth]
      refine ⟨fun harray hnull => ?_, fun harray _ hnull => ?_⟩
      · exact Operator.notEqual_of_null harray hv hcs (hnull.elim id (row.text_null key))
      · exact Operator.notEqual_of_null_list harray hcs hnull
  · intro hkey
    by_cases hauth : IsAuthData key
    · obtain ⟨p, hp, hsql⟩ := predicate_authData (c := c) hkey hauth [("$ne", .null)] b
      exact ⟨p, b, hp, fun _ => ⟨hsql, rfl⟩, fun h => absurd hauth h, fun h => absurd hauth h⟩
    · obtain ⟨p, b', hp, hsql, hb'⟩ := predicate_differsFromNull (c := c) hkey hauth b
      rw [Operator.values_differsFromNull] at hb'
      refine ⟨p, b', hp, fun h => absurd h hauth, fun _ harray => ?_, fun _ harray => ?_⟩
      · rw [if_neg (by simp [harray])] at hb'
        exact ⟨hsql ▸ Operator.render_differsFromNull harray b.next, by simpa [Bindings.append] using hb'⟩
      · rw [if_pos harray] at hb'
        exact ⟨hsql ▸ Operator.render_differsFromNull_list harray b.next, hb'⟩

theorem inequality_keeps_nulls_titles :
    (∃ p b', predicate variedContext [("title", .object [("$ne", .string "a")])] ⟨1, []⟩ = (.ok p, b') ∧
      p.truth (.uniform false) b' = .yes) ∧
    (∃ p b', predicate variedContext [("meta.tags", .object [("$ne", Json.int 3)])] ⟨1, []⟩ = (.ok p, b') ∧
      p.truth (.uniform false) b' = .yes) ∧
    ∃ p b', predicate variedContext [("title", .object [("$ne", .null)])] ⟨1, []⟩ = (.ok p, b') ∧
      render p.sql = "\"title\" IS NOT NULL" ∧ b' = ⟨1, []⟩ := by
  have hkey : ¬ IsUnsafe "title" := (isValidKey_iff _).mp (by decide)
  have hauth : ¬ IsAuthData "title" := (isAuthDataKey_eq_false_iff _).mp (by decide)
  obtain ⟨htitle, hnull⟩ := inequality_keeps_nulls variedContext "title" ⟨1, []⟩
  obtain ⟨htags, -⟩ := inequality_keeps_nulls variedContext "meta.tags" ⟨1, []⟩
  refine ⟨?_, ?_, ?_⟩
  · obtain ⟨p, b', h⟩ : ∃ p b', predicate variedContext [("title", .object [("$ne", .string "a")])]
        ⟨1, []⟩ = (.ok p, b') := ⟨_, _, rfl⟩
    exact ⟨p, b', h, (htitle _ p b' rfl h (.uniform false)).1 rfl (.inl rfl)⟩
  · obtain ⟨p, b', h⟩ : ∃ p b', predicate variedContext [("meta.tags", .object [("$ne", Json.int 3)])]
        ⟨1, []⟩ = (.ok p, b') := ⟨_, _, rfl⟩
    exact ⟨p, b', h, (htags _ p b' rfl h (.uniform false)).1 rfl (.inr rfl)⟩
  · obtain ⟨p, b', h, -, hcolumn, -⟩ := hnull hkey
    obtain ⟨hsql, hb⟩ := hcolumn hauth rfl
    exact ⟨p, b', h, hsql, hb⟩

/-- A list that is not there differs from no value, and a difference of a list from null binds the null. -/
theorem inequality_loses_null_lists :
    (∃ p b', predicate variedContext [("items", .object [("$ne", .string "a")])] ⟨1, []⟩ = (.ok p, b') ∧
      p.truth (.uniform false) b' ≠ .yes) ∧
    ∃ p b', predicate variedContext [("items", .object [("$ne", .null)])] ⟨1, []⟩ = (.ok p, b') ∧
      render p.sql ≠ "\"items\" IS NOT NULL" ∧ b'.values ≠ [] := by
  constructor
  · obtain ⟨p, b', h⟩ : ∃ p b', predicate variedContext [("items", .object [("$ne", .string "a")])]
        ⟨1, []⟩ = (.ok p, b') := ⟨_, _, rfl⟩
    have hauth : ¬ IsAuthData "items" := (isAuthDataKey_eq_false_iff _).mp (by decide)
    obtain ⟨cs, hcs, htruth⟩ := predicate_notEqual hauth h
    refine ⟨p, b', h, ?_⟩
    rw [htruth, Operator.notEqual_of_null_list rfl hcs rfl]
    decide
  · exact ⟨_, _, rfl, by decide, List.cons_ne_nil _ _⟩

end Docstore.Query
