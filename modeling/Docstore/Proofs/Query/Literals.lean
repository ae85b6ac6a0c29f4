import Docstore.Proofs.Number.Rounding
import Docstore.Proofs.Query.Presence

/-!
# Values without an operator

What a value becomes that a query names for a field. It becomes what `$eq` makes of it, but for truth values of number
fields, pointers in lists, and points (`literal_equals_iff`). The number that a truth value of a number field becomes is
one that such fields hold (`boolean_meets_number_iff`).
-/

namespace Docstore.Query

open Docstore.Encoding (untyped)
open Docstore.Sql (Bindings Template render)

/-! ## Compilations that agree -/

/-- Both fail, or both give the same text and bind the same values. -/
def Agree (r s : Except Fault Predicate × Bindings) : Prop :=
  (r.1.isOk = false ∧ s.1.isOk = false) ∨
    ∃ p q, r.1 = .ok p ∧ s.1 = .ok q ∧ render p.sql = render q.sql ∧ r.2.values = s.2.values

section

variable {c : Context} {q r : Document} {cs ds : List Condition} {b : Bindings}

theorem isOk_of_ok (hv : validateQuery q = .ok ()) (h : compile c q = .ok cs) :
    (predicate c q b).1.isOk = true := by
  rw [predicate_of_ok hv h]
  rfl

theorem isOk_of_error {e : Failure} (h : compile c q = .error e) : (predicate c q b).1.isOk = false := by
  rw [← Bool.not_eq_true, isOk_iff]
  rintro ⟨p, b', hp⟩
  obtain ⟨cs, -, hcs, -⟩ := predicate_ok hp
  rw [h] at hcs
  cases hcs

theorem isOk_of_validateQuery (h : validateQuery q ≠ .ok ()) : (predicate c q b).1.isOk = false := by
  rw [← Bool.not_eq_true, isOk_iff]
  rintro ⟨p, b', hp⟩
  obtain ⟨cs, hv, -⟩ := predicate_ok hp
  exact h hv

theorem agree_iff_of_ok (hq : validateQuery q = .ok ()) (hr : validateQuery r = .ok ())
    (hcs : compile c q = .ok cs) (hds : compile c r = .ok ds) :
    Agree (predicate c q b) (predicate c r b) ↔
      render ((Condition.conjunction cs).number b.next) = render ((Condition.conjunction ds).number b.next) ∧
        Condition.values cs = Condition.values ds := by
  rw [predicate_of_ok hq hcs, predicate_of_ok hr hds]
  simp [Agree, Except.isOk, Except.toBool, Predicate.number, Bindings.append]

theorem not_agree_of_isOk {r s : Except Fault Predicate × Bindings} (hr : r.1.isOk = true) (hs : s.1.isOk = false) :
    ¬ Agree r s := by
  rintro (⟨h, -⟩ | ⟨p, q, -, hq, -⟩)
  · rw [hr] at h
    cases h
  · rw [hq] at hs
    cases hs

end

theorem Agree.symm {r s : Except Fault Predicate × Bindings} (h : Agree r s) : Agree s r := by
  obtain ⟨hr, hs⟩ | ⟨p, q, hp, hq, hsql, hvalues⟩ := h
  · exact .inl ⟨hs, hr⟩
  · exact .inr ⟨q, p, hq, hp, hsql.symm, hvalues.symm⟩

/-! ## Queries of one entry -/

/-- Whether a value is taken for the demand that a field is absent that nobody declared. -/
def Subject.skips (s : Subject) (v : Json) : Bool := s.type.isNone && wantsAbsence v

section

variable {c : Context} {f : String} {v : Json}

theorem validateQuery_entry_iff (h : ∀ items, v ≠ .array items) :
    validateQuery [(f, v)] = .ok () ↔ isValidKey f = true := by
  cases v with
  | array items => exact absurd rfl (h items)
  | object fields => exact validateQuery_ok_iff fields
  | _ =>
      rw [← validateQuery_ok_iff []]
      simp only [validateQuery, validateEntry]

theorem compile_skipped (h : isSkipped c.schema f v = true) : compile c [(f, v)] = .ok [] := by
  rw [compile, if_pos h]
  rfl

theorem compile_entry (hkey : isValidKey f = true) (h : isSkipped c.schema f v = false) :
    compile c [(f, v)] = required f v (fieldClauses c f v) := by
  rw [compile, h, compileEntry_of_not_logical c (isLogical_of_isValidKey hkey)]
  exact Clauses.append_none _

theorem isSkipped_eq_skips (hauth : ¬ IsAuthData f) : isSkipped c.schema f v = (c.subject f).skips v := by
  rw [isSkipped, (isAuthDataKey_eq_false_iff f).mpr hauth]
  rfl

theorem isSkipped_scalar (hauth : ¬ IsAuthData f) (hscalar : v.isObject = false) : isSkipped c.schema f v = false := by
  rw [isSkipped_eq_skips hauth]
  cases v with
  | object fields => cases hscalar
  | _ => exact Bool.and_false _

theorem fieldClauses_literal (hfold : c.ignoreCase = false ∨ v.isString = false) (hnull : v.isNull = false)
    (hobject : v.isObject = false) : fieldClauses c f v = literalClauses (c.subject f) v := by
  have hstrict : (c.ignoreCase && (f == "username" || f == "email") && v.isString) = false := by
    rcases hfold with h | h <;> simp [h]
  cases v with
  | null => cases hnull
  | object fields => cases hobject
  | _ => simp only [fieldClauses, hstrict, Bool.false_eq_true, if_false, Context.subject]

theorem fieldClauses_typed (hcase : c.ignoreCase = false) {tag : String} (htag : v.typeTag? = some tag) :
    fieldClauses c f v = typedClauses (c.subject f) tag v := by
  cases v with
  | object fields => simp [fieldClauses, hcase, htag, Context.subject]
  | _ => cases htag

end

namespace Operator

theorem constraint_equal (now : Time.Instant) (s : Subject) (v : Json) :
    constraint now s [("$eq", v)] = equal s (some v) := by
  simp [constraint, Fields.get?, dottedMembership, membership, endsConstraint, Clauses.concat, Clauses.none_append,
    Clauses.append_none, notEqual, all, present, containedBy, text, nearSphere, withinBox, centerSphere, withinPolygon,
    intersects, regex, compare]

/-- What equality of a column becomes. -/
def equalityTest (s : Subject) (v : Json) : Test :=
  if v.isNull then .isNull s.operand else .equals s.operand (untyped v)

theorem equalityTest_of_isNull {s : Subject} {v : Json} (h : v.isNull = false) :
    equalityTest s v = .equals s.operand (untyped v) := if_neg (by simp [h])

theorem equal_of_undotted {s : Subject} (hdot : s.isDotted = false) {v : Json} (h : isRelativeTime v = false) :
    equal s (some v) = Clauses.test (equalityTest s v) := by
  have hoperand : s.comparedWith v = s.operand := by
    rw [Subject.comparedWith, hdot]
  cases hnull : v.isNull <;> simp [equal, equalityTest, hnull, h, hoperand]

theorem equal_of_isRelativeTime {s : Subject} {v : Json} (h : isRelativeTime v = true) :
    equal s (some v) = Clauses.fail relativeTimeMisuse := by
  have hnull : v.isNull = false := by
    cases v with
    | null => cases h
    | _ => rfl
  simp [equal, hnull, h]

end Operator

/-! ## Values and equality with them -/

/-- The values that a query compares with as a whole. -/
inductive IsComparable : Json → Prop
  | null : IsComparable .null
  | bool (x : Bool) : IsComparable (.bool x)
  | number (n : Json.Number) : IsComparable (.number n)
  | string (x : String) : IsComparable (.string x)
  | pointer {v : Json} (htag : v.typeTag? = some "Pointer") : IsComparable v
  | point {v : Json} (htag : v.typeTag? = some "GeoPoint") : IsComparable v

/-- The values that a query without an operator compares a field with as `$eq` does: no truth value where the field
is a number, no pointer where it is a list, and no point but one that both refuse. -/
structure IsPlainFor (s : Subject) (v : Json) : Prop where
  bool : v.isBool = true → s.type ≠ some .number
  pointer : v.typeTag? = some "Pointer" →
    s.isArray = false ∧ Operator.isRelativeTime v = false ∧ s.skips v = false
  point : v.typeTag? = some "GeoPoint" →
    (∀ p, Geometry.point v ≠ .ok p) ∧ Operator.isRelativeTime v = true ∧ s.skips v = false

theorem exists_of_typeTag? {v : Json} {tag : String} (h : v.typeTag? = some tag) : ∃ fields, v = .object fields := by
  cases v with
  | object fields => exact ⟨fields, rfl⟩
  | _ => cases h

section

variable {s : Subject} {v : Json}

theorem isPlainFor_scalar (hscalar : v.isObject = false) :
    IsPlainFor s v ↔ (v.isBool = true → s.type ≠ some .number) := by
  have htag (tag : String) : v.typeTag? ≠ some tag := by
    intro h
    obtain ⟨fields, rfl⟩ := exists_of_typeTag? h
    cases hscalar
  exact ⟨fun h => h.bool, fun h => ⟨h, fun hp => absurd hp (htag _), fun hp => absurd hp (htag _)⟩⟩

theorem isBool_of_typeTag? {tag : String} (h : v.typeTag? = some tag) : v.isBool = false := by
  obtain ⟨fields, rfl⟩ := exists_of_typeTag? h
  rfl

theorem isPlainFor_pointer (htag : v.typeTag? = some "Pointer") :
    IsPlainFor s v ↔ s.isArray = false ∧ Operator.isRelativeTime v = false ∧ s.skips v = false where
  mp h := h.pointer htag
  mpr h := {
    bool := by simp [isBool_of_typeTag? htag]
    pointer := fun _ => h
    point := by simp [htag] }

theorem isPlainFor_point (htag : v.typeTag? = some "GeoPoint") :
    IsPlainFor s v ↔
      (∀ p, Geometry.point v ≠ .ok p) ∧ Operator.isRelativeTime v = true ∧ s.skips v = false where
  mp h := h.point htag
  mpr h := {
    bool := by simp [isBool_of_typeTag? htag]
    pointer := by simp [htag]
    point := fun _ => h }

end

theorem literalClauses_of_undotted {s : Subject} (hdot : s.isDotted = false) {v : Json} (hscalar : v.isObject = false)
    (hlist : ∀ items, v ≠ .array items) (hnull : v.isNull = false)
    (hbool : v.isBool = true → s.type ≠ some .number) :
    literalClauses s v = Clauses.test (Operator.equalityTest s v) := by
  cases v with
  | null => cases hnull
  | array items => exact absurd rfl (hlist items)
  | object fields => cases hscalar
  | bool x =>
      simp only [literalClauses, hdot, Bool.false_eq_true, if_false, if_neg (hbool rfl)]
      rfl
  | _ =>
      simp only [literalClauses, hdot, Bool.false_eq_true, if_false]
      rfl

section

variable {c : Context} {f : String} {v : Json} (hkey : ¬ IsUnsafe f) (hauth : ¬ IsAuthData f)
include hkey hauth

theorem compile_equal (v : Json) :
    compile c [(f, .object [("$eq", v)])] =
      required f (.object [("$eq", v)]) (Operator.equal (c.subject f) (some v)) := by
  have hne : "$eq" ≠ "__type" ∧ "$eq" ≠ "$exists" := by decide
  rw [compile_operator ((isValidKey_iff f).mpr hkey) ((isAuthDataKey_eq_false_iff f).mpr hauth) hne.1 hne.2,
    Operator.constraint_equal]

theorem compile_equality_refused (htime : Operator.isRelativeTime v = true) :
    ∃ e, compile c [(f, .object [("$eq", v)])] = .error e := by
  rw [compile_equal hkey hauth, Operator.equal_of_isRelativeTime htime]
  exact ⟨_, rfl⟩

theorem compile_pointer (hcase : c.ignoreCase = false) (htag : v.typeTag? = some "Pointer")
    (hskip : (c.subject f).skips v = false) :
    compile c [(f, v)] = .ok [.test (if (c.subject f).isArray then .hasAny (c.subject f).list [v]
      else .equals (c.subject f).operand (untyped v))] := by
  rw [compile_entry ((isValidKey_iff f).mpr hkey) ((isSkipped_eq_skips hauth).trans hskip),
    fieldClauses_typed hcase htag]
  cases hlist : (c.subject f).isArray <;> simp [typedClauses, hlist, Clauses.test, Clauses.one, required]

theorem compile_point (hcase : c.ignoreCase = false) (htag : v.typeTag? = some "GeoPoint")
    (hskip : (c.subject f).skips v = false) :
    compile c [(f, v)] = required f v
      (Clauses.given (Geometry.point v) fun p => .test (.isPoint (c.subject f).operand p)) := by
  rw [compile_entry ((isValidKey_iff f).mpr hkey) ((isSkipped_eq_skips hauth).trans hskip),
    fieldClauses_typed hcase htag]
  simp [typedClauses]

variable (hdot : isDotted f = false)
include hdot

theorem compile_equality (htime : Operator.isRelativeTime v = false) :
    compile c [(f, .object [("$eq", v)])] = .ok [.test (Operator.equalityTest (c.subject f) v)] := by
  rw [compile_equal hkey hauth, Operator.equal_of_undotted (s := c.subject f) hdot htime]
  rfl

theorem compile_scalar (hcase : c.ignoreCase = false) (hscalar : v.isObject = false)
    (hlist : ∀ items, v ≠ .array items) (hbool : v.isBool = true → (c.subject f).type ≠ some .number) :
    compile c [(f, v)] = .ok [.test (Operator.equalityTest (c.subject f) v)] := by
  rw [compile_entry ((isValidKey_iff f).mpr hkey) (isSkipped_scalar hauth hscalar)]
  cases hnull : v.isNull with
  | true =>
      cases v <;> cases hnull
      simp [fieldClauses, Json.isString, Operator.equalityTest, Json.isNull, Clauses.test, Clauses.one, required,
        Context.subject, Subject.operand]
  | false =>
      rw [fieldClauses_literal (.inl hcase) hnull hscalar,
        literalClauses_of_undotted (s := c.subject f) hdot hscalar hlist hnull hbool]
      rfl

theorem compile_bool_of_number (htype : (c.subject f).type = some .number) (x : Bool) :
    compile c [(f, .bool x)] = .ok [.test (.equals (c.subject f).operand (.number unmatchable))] := by
  have hundotted : (c.subject f).isDotted = false := hdot
  rw [compile_entry ((isValidKey_iff f).mpr hkey) (isSkipped_scalar hauth rfl), fieldClauses_literal (.inr rfl) rfl rfl]
  simp only [literalClauses, hundotted, Bool.false_eq_true, if_false, if_pos htype]
  rfl

end

theorem values_equals (x : Operand) (v : Value) : Condition.values [.test (.equals x v)] = [v] := by
  simp [Condition.values, Condition.conjunction, Condition.template, Test.template, Operand.values_template]

theorem values_hasAny (x : Operand) (items : List Json) :
    Condition.values [.test (.hasAny x items)] = [.json (.array items)] := by
  simp [Condition.values, Condition.conjunction, Condition.template, Test.template, Operand.values_template,
    Sql.boundList]

theorem values_isPoint (x : Operand) (p : Point) :
    Condition.values [.test (.isPoint x p)] = [.number p.x, .number p.y] := by
  simp [Condition.values, Condition.conjunction, Condition.template, Test.template, Operand.values_template,
    Sql.boundPoint, Sql.boundDouble]

theorem untyped_object_ne_list (fields : Document) (items : List Json) :
    untyped (.object fields) ≠ .json (.array items) := by
  unfold untyped
  split <;> simp [Encoding.plain]

section

variable {c : Context} {f : String} {fields : Document} (hkey : ¬ IsUnsafe f) (hauth : ¬ IsAuthData f)
  (hdot : isDotted f = false) (b : Bindings)
include hkey hauth hdot

theorem agree_scalar {v : Json} (hcase : c.ignoreCase = false) (hscalar : v.isObject = false)
    (hlist : ∀ items, v ≠ .array items) :
    Agree (predicate c [(f, v)] b) (predicate c [(f, .object [("$eq", v)])] b) ↔
      (v.isBool = true → (c.subject f).type ≠ some .number) := by
  have hvalid := (isValidKey_iff f).mpr hkey
  have hliteral := (validateQuery_entry_iff (f := f) hlist).mpr hvalid
  have hequality := (validateQuery_ok_iff (f := f) [("$eq", v)]).mpr hvalid
  have htime : Operator.isRelativeTime v = false := by
    cases v <;> first | rfl | cases hscalar
  by_cases hbool : v.isBool = true → (c.subject f).type ≠ some .number
  · refine iff_of_true ?_ hbool
    rw [agree_iff_of_ok hliteral hequality (compile_scalar hkey hauth hdot hcase hscalar hlist hbool)
      (compile_equality hkey hauth hdot htime)]
    exact ⟨rfl, rfl⟩
  · refine iff_of_false ?_ hbool
    obtain ⟨hisBool, htype⟩ := Classical.not_imp.mp hbool
    cases v <;> cases hisBool
    rw [agree_iff_of_ok hliteral hequality (compile_bool_of_number hkey hauth hdot (not_not.mp htype) _)
      (compile_equality hkey hauth hdot htime), Operator.equalityTest_of_isNull rfl, values_equals, values_equals]
    rintro ⟨-, hvalues⟩
    cases hvalues

/-- What is skipped asks for nothing, which equality does not. -/
theorem not_agree_of_skips (hskip : (c.subject f).skips (.object fields) = true) :
    ¬ Agree (predicate c [(f, .object fields)] b) (predicate c [(f, .object [("$eq", .object fields)])] b) := by
  have hvalid (ops : Document) := (validateQuery_ok_iff (f := f) ops).mpr ((isValidKey_iff f).mpr hkey)
  have hliteral := compile_skipped ((isSkipped_eq_skips hauth).trans hskip)
  cases htime : Operator.isRelativeTime (.object fields) with
  | true =>
      obtain ⟨e, he⟩ := compile_equality_refused (c := c) hkey hauth htime
      exact not_agree_of_isOk (isOk_of_ok (hvalid _) hliteral) (isOk_of_error he)
  | false =>
      rw [agree_iff_of_ok (hvalid _) (hvalid _) hliteral (compile_equality hkey hauth hdot htime),
        Operator.equalityTest_of_isNull rfl, values_equals]
      rintro ⟨-, hvalues⟩
      cases hvalues

theorem agree_pointer (hcase : c.ignoreCase = false) (htag : (Json.object fields).typeTag? = some "Pointer") :
    Agree (predicate c [(f, .object fields)] b) (predicate c [(f, .object [("$eq", .object fields)])] b) ↔
      (c.subject f).isArray = false ∧ Operator.isRelativeTime (.object fields) = false ∧
        (c.subject f).skips (.object fields) = false := by
  have hvalid (ops : Document) := (validateQuery_ok_iff (f := f) ops).mpr ((isValidKey_iff f).mpr hkey)
  cases hskip : (c.subject f).skips (.object fields) with
  | true => exact iff_of_false (not_agree_of_skips hkey hauth hdot b hskip) fun h => nomatch h.2.2
  | false =>
      have hliteral := compile_pointer hkey hauth hcase htag hskip
      cases htime : Operator.isRelativeTime (.object fields) with
      | true =>
          obtain ⟨e, he⟩ := compile_equality_refused (c := c) hkey hauth htime
          exact iff_of_false (not_agree_of_isOk (isOk_of_ok (hvalid _) hliteral) (isOk_of_error he))
            fun h => nomatch h.2.1
      | false =>
          rw [agree_iff_of_ok (hvalid _) (hvalid _) hliteral (compile_equality hkey hauth hdot htime),
            Operator.equalityTest_of_isNull rfl]
          cases (c.subject f).isArray with
          | false => exact iff_of_true ⟨rfl, rfl⟩ ⟨rfl, rfl, rfl⟩
          | true =>
              refine iff_of_false ?_ fun h => nomatch h.1
              rintro ⟨-, hvalues⟩
              rw [if_pos rfl, values_hasAny, values_equals] at hvalues
              exact untyped_object_ne_list fields _ (List.cons.inj hvalues).1.symm

theorem agree_point (hcase : c.ignoreCase = false) (htag : (Json.object fields).typeTag? = some "GeoPoint") :
    Agree (predicate c [(f, .object fields)] b) (predicate c [(f, .object [("$eq", .object fields)])] b) ↔
      (∀ p, Geometry.point (.object fields) ≠ .ok p) ∧ Operator.isRelativeTime (.object fields) = true ∧
        (c.subject f).skips (.object fields) = false := by
  have hvalid (ops : Document) := (validateQuery_ok_iff (f := f) ops).mpr ((isValidKey_iff f).mpr hkey)
  cases hskip : (c.subject f).skips (.object fields) with
  | true => exact iff_of_false (not_agree_of_skips hkey hauth hdot b hskip) fun h => nomatch h.2.2
  | false =>
      have hliteral := compile_point hkey hauth hcase htag hskip
      cases hpoint : Geometry.point (.object fields) with
      | ok p =>
          refine iff_of_false ?_ fun h => h.1 p rfl
          rw [hpoint] at hliteral
          cases htime : Operator.isRelativeTime (.object fields) with
          | true =>
              obtain ⟨e, he⟩ := compile_equality_refused (c := c) hkey hauth htime
              exact not_agree_of_isOk (isOk_of_ok (hvalid _) hliteral) (isOk_of_error he)
          | false =>
              rw [agree_iff_of_ok (hvalid _) (hvalid _) hliteral (compile_equality hkey hauth hdot htime),
                Operator.equalityTest_of_isNull rfl, values_equals, values_isPoint]
              rintro ⟨-, hvalues⟩
              cases congrArg List.length hvalues
      | error e =>
          rw [hpoint] at hliteral
          cases htime : Operator.isRelativeTime (.object fields) with
          | true =>
              obtain ⟨e', he⟩ := compile_equality_refused (c := c) hkey hauth htime
              exact iff_of_true (.inl ⟨isOk_of_error hliteral, isOk_of_error he⟩)
                ⟨fun p h => (nomatch h), rfl, rfl⟩
          | false =>
              refine iff_of_false (fun h => ?_) fun h => nomatch h.2.1
              exact not_agree_of_isOk (isOk_of_ok (hvalid _) (compile_equality hkey hauth hdot htime))
                (isOk_of_error hliteral) h.symm

end

/-- Alone and as an operand of `$eq`, a value becomes the same, or is refused, exactly if it is plain for the field;
an unsafe key is refused in any case, and auth data are not constrained. -/
theorem literal_equals_iff {c : Context} (hcase : c.ignoreCase = false) {f : String} (hdot : isDotted f = false)
    {v : Json} (hv : IsComparable v) (b : Bindings) :
    Agree (predicate c [(f, v)] b) (predicate c [(f, .object [("$eq", v)])] b) ↔
      IsUnsafe f ∨ IsAuthData f ∨ IsPlainFor (c.subject f) v := by
  have hlist : ∀ items, v ≠ .array items := by
    rintro items rfl
    cases hv with
    | pointer htag => cases htag
    | point htag => cases htag
  by_cases hkey : IsUnsafe f
  · have hvalid : ¬ isValidKey f = true := fun h => (isValidKey_iff f).mp h hkey
    refine iff_of_true (.inl ⟨isOk_of_validateQuery ?_, isOk_of_validateQuery ?_⟩) (.inl hkey)
    · exact fun h => hvalid ((validateQuery_entry_iff hlist).mp h)
    · exact fun h => hvalid ((validateQuery_ok_iff _).mp h)
  by_cases hauth : IsAuthData f
  · have hvalid := (isValidKey_iff f).mpr hkey
    have hskip (w : Json) : isSkipped c.schema f w = true := by
      rw [isSkipped, (isAuthDataKey_iff f).mpr hauth, Bool.true_or]
    refine iff_of_true ?_ (.inr (.inl hauth))
    rw [agree_iff_of_ok ((validateQuery_entry_iff hlist).mpr hvalid) ((validateQuery_ok_iff _).mpr hvalid)
      (compile_skipped (hskip _)) (compile_skipped (hskip _))]
    exact ⟨rfl, rfl⟩
  rw [or_iff_right hkey, or_iff_right hauth]
  cases hv with
  | null | bool _ | number _ | string _ =>
      rw [agree_scalar hkey hauth hdot b hcase rfl hlist, isPlainFor_scalar rfl]
  | pointer htag =>
      obtain ⟨fields, rfl⟩ := exists_of_typeTag? htag
      rw [agree_pointer hkey hauth hdot b hcase htag, isPlainFor_pointer htag]
  | point htag =>
      obtain ⟨fields, rfl⟩ := exists_of_typeTag? htag
      rw [agree_point hkey hauth hdot b hcase htag, isPlainFor_point htag]

/-- Games with a score, players and a place. -/
def gameContext : Context :=
  ⟨⟨"Game", [("title", .ofType .string), ("score", .ofType .number), ("players", .ofType .array),
    ("place", .ofType .geoPoint)], none, []⟩, false, ⟨0, 0⟩⟩

theorem literal_equals_iff_score :
    Agree (predicate gameContext [("score", Json.int 3)] ⟨1, []⟩)
        (predicate gameContext [("score", .object [("$eq", Json.int 3)])] ⟨1, []⟩) ∧
      ¬ Agree (predicate gameContext [("score", .bool true)] ⟨1, []⟩)
        (predicate gameContext [("score", .object [("$eq", .bool true)])] ⟨1, []⟩) := by
  have hkey : ¬ IsUnsafe "score" := (isValidKey_iff _).mp (by decide)
  have hauth : ¬ IsAuthData "score" := (isAuthDataKey_eq_false_iff _).mp (by decide)
  constructor
  · refine (literal_equals_iff rfl (by decide) (.number _) ⟨1, []⟩).mpr (.inr (.inr ?_))
    exact (isPlainFor_scalar rfl).mpr fun h => nomatch h
  · rw [literal_equals_iff rfl (by decide) (.bool true) ⟨1, []⟩, or_iff_right hkey, or_iff_right hauth]
    exact fun h => h.bool rfl rfl

def pointerToPlayer : Document :=
  [("__type", .string "Pointer"), ("className", .string "_User"), ("objectId", .string "u1")]

def origin : Document := [("__type", .string "GeoPoint"), ("latitude", Json.int 0), ("longitude", Json.int 0)]

/-- Equality does not know of the truth values of numbers, of pointers in lists, and of points. -/
theorem literal_differs_from_equality :
    ¬ Agree (predicate gameContext [("score", .bool true)] ⟨1, []⟩)
        (predicate gameContext [("score", .object [("$eq", .bool true)])] ⟨1, []⟩) ∧
      ¬ Agree (predicate gameContext [("players", .object pointerToPlayer)] ⟨1, []⟩)
        (predicate gameContext [("players", .object [("$eq", .object pointerToPlayer)])] ⟨1, []⟩) ∧
      ¬ Agree (predicate gameContext [("place", .object origin)] ⟨1, []⟩)
        (predicate gameContext [("place", .object [("$eq", .object origin)])] ⟨1, []⟩) := by
  have hkey (f : String) (h : isValidKey f = true) : ¬ IsUnsafe f := (isValidKey_iff f).mp h
  have hauth (f : String) (h : isAuthDataKey f = false) : ¬ IsAuthData f := (isAuthDataKey_eq_false_iff f).mp h
  refine ⟨?_, ?_, ?_⟩
  · rw [agree_scalar (hkey _ (by decide)) (hauth _ (by decide)) (by decide) ⟨1, []⟩ rfl rfl (by simp)]
    exact fun h => h rfl rfl
  · rw [agree_pointer (hkey _ (by decide)) (hauth _ (by decide)) (by decide) ⟨1, []⟩ rfl rfl]
    exact fun h => nomatch h.1
  · rw [agree_point (hkey _ (by decide)) (hauth _ (by decide)) (by decide) ⟨1, []⟩ rfl rfl]
    exact fun h => nomatch h.2.1

/-! ## Truth values and numbers -/

theorem encode_number (n : Json.Number) : Encoding.encode .number (.number n) = .ok (.number n.double) := by
  rw [Encoding.encode]
  simp [Json.isNull, Json.Number.double?_number]

theorem template_text_of_undotted {f : String} (hdot : isDotted f = false) :
    (Operand.text f).template = Sql.named f := by
  have hpoint : '.' ∉ f.toList := by simpa [isDotted] using hdot
  have htail : (components f).tail = [] := by
    rw [components, Text.pieces, Text.splitOn_of_not_mem hpoint]
    rfl
  rw [Operand.template, Operand.path, root_of_undotted hdot, htail]
  rfl

theorem compile_bool_of_dotted {c : Context} {f : String} (hkey : ¬ IsUnsafe f) (hauth : ¬ IsAuthData f)
    (hdot : isDotted f = true) (x : Bool) :
    compile c [(f, .bool x)] = .ok [.test (.equals (.cast f "boolean") (.bool x))] := by
  have hdotted : (c.subject f).isDotted = true := hdot
  rw [compile_entry ((isValidKey_iff f).mpr hkey) (isSkipped_scalar hauth rfl), fieldClauses_literal (.inr rfl) rfl rfl]
  simp only [literalClauses, hdotted, if_true]
  rfl

/-- Where a field of numbers is compared with a truth value, the number that is bound equals a stored one exactly if
that was rounded to it. At a place inside a document no number is bound, and for auth data nothing. -/
theorem boolean_meets_number_iff {c : Context} {f : String} (hkey : ¬ IsUnsafe f)
    (htype : c.schema.fieldType? f = some .number) (x : Bool) (n : Json.Number) (b : Bindings) :
    ∃ p vs stored, predicate c [(f, .bool x)] b = (.ok p, b.append vs) ∧
      Encoding.encode .number (.number n) = .ok (.number stored) ∧
      (isDotted f = false → ¬ IsAuthData f → ∃ bound, vs = [.number bound] ∧
        p.sql = [.name f, .text " = ", .placeholder b.next] ∧ (Double.eq stored bound = true ↔ n.MeetsBound)) ∧
      (isDotted f = true ∨ IsAuthData f → ∀ bound, .number bound ∉ vs) := by
  have hvalid : validateQuery [(f, .bool x)] = .ok () :=
    (validateQuery_entry_iff (by simp)).mpr ((isValidKey_iff f).mpr hkey)
  by_cases hauth : IsAuthData f
  · have hskip : isSkipped c.schema f (.bool x) = true := by
      rw [isSkipped, (isAuthDataKey_iff f).mpr hauth, Bool.true_or]
    exact ⟨_, _, _, predicate_of_ok hvalid (compile_skipped hskip) b, encode_number n,
      fun _ h => absurd hauth h, fun _ _ => List.not_mem_nil⟩
  cases hdot : isDotted f with
  | true =>
      refine ⟨_, _, _, predicate_of_ok hvalid (compile_bool_of_dotted hkey hauth hdot x) b, encode_number n,
        fun h => absurd h.symm Bool.false_ne_true, fun _ bound h => ?_⟩
      rw [values_equals] at h
      simp at h
  | false =>
      refine ⟨_, _, _, predicate_of_ok hvalid (compile_bool_of_number hkey hauth hdot htype x) b, encode_number n,
        fun _ _ => ⟨unmatchable, values_equals _ _, ?_, n.eq_int64Bound_iff⟩,
        fun h => h.elim (fun h => absurd h Bool.false_ne_true) fun h => absurd h hauth⟩
      have htemplate := template_text_of_undotted hdot
      simp [Predicate.number, Condition.conjunction, Condition.template, Test.template, Subject.operand,
        Context.subject, htemplate, Sql.named, Sql.words, Sql.value, Template.number]

theorem boolean_meets_number_iff_score :
    ∃ p vs stored, predicate gameContext [("score", .bool true)] ⟨1, []⟩ = (.ok p, ⟨1, vs⟩) ∧
      Encoding.encode .number (Json.int 0x7ffffffffffffdff) = .ok (.number stored) ∧
      ∃ bound, vs = [.number bound] ∧ Double.eq stored bound = false := by
  have hkey : ¬ IsUnsafe "score" := (isValidKey_iff _).mp (by decide)
  have hauth : ¬ IsAuthData "score" := (isAuthDataKey_eq_false_iff _).mp (by decide)
  obtain ⟨p, vs, stored, hp, hstored, hcolumn, -⟩ :=
    boolean_meets_number_iff (c := gameContext) hkey rfl true (.integer 0x7ffffffffffffdff) ⟨1, []⟩
  obtain ⟨bound, hvs, -, hmeets⟩ := hcolumn (by decide) hauth
  refine ⟨p, vs, stored, hp, hstored, bound, hvs, ?_⟩
  rw [Bool.eq_false_iff, ne_eq, hmeets]
  rintro ⟨hlow, -⟩
  revert hlow
  decide

/-- The largest integer of 64 bits with a sign is stored as the number that truth values are compared with. -/
theorem boolean_meets_largest_integer :
    ∃ p bound stored, predicate gameContext [("score", .bool true)] ⟨1, []⟩ = (.ok p, ⟨1, [.number bound]⟩) ∧
      Encoding.encode .number (Json.int 0x7fffffffffffffff) = .ok (.number stored) ∧
      Double.eq stored bound = true :=
  ⟨_, _, _, rfl, rfl, by decide +kernel⟩

end Docstore.Query
