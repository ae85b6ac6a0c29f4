import Docstore.Proofs.Query.Conjunction
import Docstore.Proofs.Query.KeySafety
import Docstore.Proofs.Query.Rows

/-!
# Membership on rows

What `$in` and `$nin` say of a row, with nulls in its columns or in their lists. Main statements: of any row
exactly one of the two holds (`membership_complements`), and lists without members and lists that name null
mean for a place inside a document what they do not mean for a column (`membership_edges`).
-/

namespace Docstore.Query

open Docstore.Sql (Bindings Item Truth render)

theorem Encoding.untyped_ne_null {v : Json} (h : v.isNull = false) : Encoding.untyped v ≠ .null := by
  unfold Docstore.Encoding.untyped
  split
  · simp
  · cases v with
    | null => cases h
    | number n =>
        cases n with
        | integer i =>
            rw [Docstore.Encoding.plain]
            split <;> simp
        | float x => simp [Docstore.Encoding.plain]
    | _ => simp [Docstore.Encoding.plain]

namespace Operator

/-- `$in` or its opposite. -/
def memberName (negated : Bool) : String := if negated then "$nin" else "$in"

def member (s : Subject) (negated : Bool) (list : List Json) : Condition :=
  if s.isDotted then inDocument s negated list else columnIn s negated list

theorem constraint_member (now : Time.Instant) (s : Subject) (negated : Bool) (list : List Json) :
    constraint now s [(memberName negated, .array list)] = Clauses.one (member s negated list) := by
  cases hdot : s.isDotted <;> cases negated <;>
    simp [constraint, memberName, member, Fields.get?, dottedMembership, membership, hdot, endsConstraint,
      Clauses.concat, Clauses.none_append, Clauses.append_none, notEqual, equal, all, present, containedBy,
      text, nearSphere, withinBox, centerSphere, withinPolygon, intersects, regex, compare]

/-! ## Conditions of membership -/

section

variable {row : Row} {s : Subject} {list : List Json}

/-- Whether the field's column is a document that lists its items. -/
def listsInDocument (s : Subject) : Bool := s.isArray && !s.isStringArray

theorem columnIn_of_flatten_nil (h : flatten list = []) (negated : Bool) :
    (columnIn s negated list).truth row = .ofBool negated := by
  simp [columnIn, h]

/-- The values of a list's members that are not null. -/
def memberValues (list : List Json) : List Value :=
  ((flatten list).filter (!·.isNull)).map Encoding.untyped

theorem null_not_mem_memberValues (list : List Json) : .null ∉ memberValues list := by
  intro h
  obtain ⟨v, hv, hnull⟩ := List.mem_map.mp h
  have hv' : v.isNull = false := by simpa using (List.mem_filter.mp hv).2
  exact Encoding.untyped_ne_null hv' hnull

/-- Membership in values is unknown of a null column alone, and else the opposite of its opposite. -/
theorem valueIn_truth (row : Row) (field : String) (native : Bool) {vs : List Value} (hvs : vs ≠ [])
    (hnull : .null ∉ vs) :
    ((valueIn (.column field) native false vs).truth row = .unknown ↔
        row.null (Operand.column field).items = true) ∧
      (valueIn (.column field) native true vs).truth row =
        ((valueIn (.column field) native false vs).truth row).not := by
  cases native with
  | true => exact ⟨Condition.truth_overlaps row field vs, Condition.truth_notGroup row _⟩
  | false => exact ⟨Condition.truth_isIn row field hvs hnull, Condition.truth_isNotIn row field vs⟩

/-- Where only the null is unknown, a row that is null or not a member is any that is no member. -/
theorem complement_of_unknown_iff {t : Truth} {null : Bool} (h : t = .unknown ↔ null = true) :
    t = .yes ↔ (Truth.ofBool null).or t.not ≠ .yes := by
  cases t <;> cases null <;> simp_all [Truth.ofBool, Truth.not, Truth.or]

theorem columnIn_of_listsInDocument (hlists : listsInDocument s = true) (hne : flatten list ≠ [])
    (negated : Bool) : columnIn s negated list = listIn (.column s.key) negated (flatten list) := by
  unfold listsInDocument at hlists
  rw [columnIn, if_neg (by simpa using hne), if_pos hlists]

/-- A list of nulls alone asks whether the column is null. -/
theorem columnIn_of_nulls (hlists : listsInDocument s = false) (hne : flatten list ≠ [])
    (hvs : memberValues list = []) (negated : Bool) :
    columnIn s negated list =
      .test (if negated then .isNotNull (.column s.key) else .isNull (.column s.key)) := by
  unfold listsInDocument at hlists
  unfold memberValues at hvs
  rw [columnIn, if_neg (by simpa using hne), if_neg (by simpa using hlists), hvs]
  cases negated <;> rfl

theorem columnIn_of_values (hlists : listsInDocument s = false) (hvs : memberValues list ≠ [])
    (negated : Bool) :
    columnIn s negated list =
      let inValues := valueIn (.column s.key) s.isStringArray negated (memberValues list)
      match negated, (flatten list).any (·.isNull) with
      | false, true => .anyOf [[.test (.isNull (.column s.key))], [inValues]]
      | true, true => .allOf [[.test (.isNotNull (.column s.key))], [inValues]]
      | true, false => .anyOf [[.test (.isNull (.column s.key))], [inValues]]
      | false, false => inValues := by
  have hne : flatten list ≠ [] := by
    intro h
    exact hvs (by rw [memberValues, h]; rfl)
  unfold listsInDocument at hlists
  unfold memberValues at hvs
  rw [columnIn, if_neg (by simpa using hne), if_neg (by simpa using hlists), if_neg (by simpa using hvs)]
  rfl

theorem columnIn_complement (row : Row) (s : Subject) (list : List Json) :
    (columnIn s false list).truth row = .yes ↔ (columnIn s true list).truth row ≠ .yes := by
  by_cases hne : flatten list = []
  · rw [columnIn_of_flatten_nil hne, columnIn_of_flatten_nil hne]
    decide
  cases hlists : listsInDocument s with
  | true =>
      have hcontains := complement_of_unknown_iff
        (Condition.truth_hasAny row (.column s.key) (flatten list))
      rw [columnIn_of_listsInDocument hlists hne, columnIn_of_listsInDocument hlists hne]
      simpa [listIn] using hcontains
  | false =>
      by_cases hvs : memberValues list = []
      · rw [columnIn_of_nulls hlists hne hvs, columnIn_of_nulls hlists hne hvs]
        simp
      · obtain ⟨hunknown, hnot⟩ := valueIn_truth row s.key s.isStringArray hvs
          (null_not_mem_memberValues list)
        have hcomplement := complement_of_unknown_iff hunknown
        rw [columnIn_of_values hlists hvs, columnIn_of_values hlists hvs]
        cases (flatten list).any (·.isNull) with
        | false => simpa [hnot] using hcomplement
        | true =>
            -- A null that is named moves from the one to the other.
            cases hnull : row.null (Operand.column s.key).items with
            | true => simp [hnull]
            | false =>
                rw [hnull] at hcomplement
                simpa [hnot, hnull, Truth.ofBool] using hcomplement

theorem columnIn_of_null_member (hlists : listsInDocument s = false) (hmember : .null ∈ flatten list)
    (hnull : row.null (Operand.column s.key).items = true) :
    (columnIn s false list).truth row = .yes := by
  by_cases hvs : memberValues list = []
  · rw [columnIn_of_nulls hlists (List.ne_nil_of_mem hmember) hvs]
    simp [hnull]
  · have hany : (flatten list).any (·.isNull) = true := List.any_eq_true.mpr ⟨.null, hmember, rfl⟩
    rw [columnIn_of_values hlists hvs, hany]
    simp [hnull]

theorem columnIn_of_null (hlists : listsInDocument s = true) (hne : flatten list ≠ [])
    (hnull : row.null (Operand.column s.key).items = true) :
    (columnIn s false list).truth row ≠ .yes := by
  have hunknown := (Condition.truth_hasAny row (.column s.key) (flatten list)).mpr hnull
  have hlist : columnIn s false list = .test (.hasAny (.column s.key) (flatten list)) :=
    columnIn_of_listsInDocument hlists hne false
  rw [hlist, hunknown]
  decide

theorem inDocument_complement (row : Row) (s : Subject) (list : List Json) :
    (inDocument s false list).truth row = .yes ↔ (inDocument s true list).truth row ≠ .yes := by
  have hcontains := complement_of_unknown_iff (Condition.truth_containsJson row s.key list)
  simpa [inDocument] using hcontains

theorem inDocument_nil (h : row.isList (Operand.json s.key).items = true) :
    (inDocument s false []).truth row = .yes ∧ (inDocument s true []).truth row ≠ .yes := by
  have hin : (inDocument s false []).truth row = .yes := Condition.truth_containsJson_nil row h
  exact ⟨hin, (inDocument_complement row s []).mp hin⟩

theorem inDocument_of_null (h : row.null (Operand.json s.key).items = true) :
    (inDocument s false list).truth row ≠ .yes := by
  have hunknown : (inDocument s false list).truth row = .unknown :=
    (Condition.truth_containsJson row s.key list).mpr h
  rw [hunknown]
  decide

theorem member_of_dotted (h : s.isDotted = true) {negated : Bool} :
    member s negated list = inDocument s negated list := if_pos h

theorem member_of_undotted (h : s.isDotted = false) {negated : Bool} :
    member s negated list = columnIn s negated list := if_neg (by simp [h])

theorem member_complement (row : Row) (s : Subject) (list : List Json) :
    (member s false list).truth row = .yes ↔ (member s true list).truth row ≠ .yes := by
  unfold member
  split
  · exact inDocument_complement row s list
  · exact columnIn_complement row s list

end

end Operator

/-! ## Membership in predicates -/

/-- A key of a provider's auth data. -/
def IsAuthData (key : String) : Prop := ∃ provider, provider ≠ "" ∧ key = "_auth_data_" ++ provider

theorem isAuthDataKey_eq_false_iff (key : String) : isAuthDataKey key = false ↔ ¬ IsAuthData key := by
  rw [Bool.eq_false_iff, ne_eq, isAuthDataKey_iff]
  rfl

/-- A constraint of one operator is that operator's conditions. -/
theorem predicate_operator {c : Context} {key op : String} (hkey : ¬ IsUnsafe key)
    (hauth : ¬ IsAuthData key) (htype : op ≠ "__type") (hexists : op ≠ "$exists") {v : Json}
    {cs : List Condition} (h : Operator.constraint c.now (c.subject key) [(op, v)] = .ok cs)
    (hcs : cs ≠ []) (b : Bindings) :
    predicate c [(key, .object [(op, v)])] b =
        (.ok (Predicate.number b.next cs), b.append (Condition.values cs)) ∧
      ∀ row, (Predicate.number b.next cs).truth row (b.append (Condition.values cs)) =
        Condition.truthOfAll row cs := by
  have hvalid := (isValidKey_iff key).mpr hkey
  have hcompile := (compile_operator hvalid ((isAuthDataKey_eq_false_iff key).mpr hauth) htype hexists v).trans
    (required_ok_iff.mpr ⟨h, hcs⟩)
  exact ⟨predicate_of_ok ((validateQuery_ok_iff _).mpr hvalid) hcompile b,
    Predicate.truth_number hcompile (Bindings.holds_append_self b _)⟩

/-- A constraint on auth data is none. -/
theorem predicate_authData {c : Context} {key : String} (hkey : ¬ IsUnsafe key) (hauth : IsAuthData key)
    (ops : Document) (b : Bindings) :
    ∃ p, predicate c [(key, .object ops)] b = (.ok p, b) ∧ render p.sql = "" := by
  have hvalid := (isValidKey_iff key).mpr hkey
  have hpredicate := predicate_of_ok ((validateQuery_ok_iff ops).mpr hvalid)
    (compile_of_isAuthDataKey (c := c) ((isAuthDataKey_iff key).mpr hauth) ops) b
  obtain ⟨hsql, hb⟩ := predicate_eq_empty ((isAuthDataKey_iff key).mpr hauth) hpredicate
  rw [hb] at hpredicate
  exact ⟨_, hpredicate, by rw [hsql]; rfl⟩

theorem predicate_member {c : Context} {key : String} (hkey : ¬ IsUnsafe key) (hauth : ¬ IsAuthData key)
    (negated : Bool) (list : List Json) (b : Bindings) :
    ∃ p b', predicate c [(key, .object [(Operator.memberName negated, .array list)])] b = (.ok p, b') ∧
      ∀ row, p.truth row b' = (Operator.member (c.subject key) negated list).truth row := by
  have hname : Operator.memberName negated ≠ "__type" ∧ Operator.memberName negated ≠ "$exists" := by
    cases negated <;> decide
  have hconstraint := Operator.constraint_member c.now (c.subject key) negated list
  obtain ⟨hpredicate, htruth⟩ :=
    predicate_operator hkey hauth hname.1 hname.2 hconstraint (List.cons_ne_nil _ _) b
  exact ⟨_, _, hpredicate, fun row => (htruth row).trans (Truth.and_yes _)⟩

/-- Membership and its opposite, which are both empty for auth data. -/
theorem predicate_members (c : Context) {key : String} (hkey : ¬ IsUnsafe key) (list : List Json)
    (b₁ b₂ : Bindings) :
    ∃ p b₁' q b₂',
      predicate c [(key, .object [("$in", .array list)])] b₁ = (.ok p, b₁') ∧
      predicate c [(key, .object [("$nin", .array list)])] b₂ = (.ok q, b₂') ∧
      (IsAuthData key → render p.sql = "" ∧ render q.sql = "") ∧
      (¬ IsAuthData key → ∀ row,
        p.truth row b₁' = (Operator.member (c.subject key) false list).truth row ∧
        q.truth row b₂' = (Operator.member (c.subject key) true list).truth row) := by
  by_cases hauth : IsAuthData key
  · obtain ⟨p, hp, hpsql⟩ := predicate_authData (c := c) hkey hauth [("$in", .array list)] b₁
    obtain ⟨q, hq, hqsql⟩ := predicate_authData (c := c) hkey hauth [("$nin", .array list)] b₂
    exact ⟨p, b₁, q, b₂, hp, hq, fun _ => ⟨hpsql, hqsql⟩, fun h => absurd hauth h⟩
  · obtain ⟨p, b₁', hp, hptruth⟩ := predicate_member (c := c) hkey hauth false list b₁
    obtain ⟨q, b₂', hq, hqtruth⟩ := predicate_member (c := c) hkey hauth true list b₂
    exact ⟨p, b₁', q, b₂', hp, hq, fun h => absurd h hauth, fun _ row => ⟨hptruth row, hqtruth row⟩⟩

/-- Of any row exactly one of `$in` and `$nin` holds, but for auth data, which are not constrained. -/
theorem membership_complements (c : Context) (key : String) (hkey : ¬ IsUnsafe key) (list : List Json)
    (b₁ b₂ : Bindings) :
    ∃ p b₁' q b₂',
      predicate c [(key, .object [("$in", .array list)])] b₁ = (.ok p, b₁') ∧
      predicate c [(key, .object [("$nin", .array list)])] b₂ = (.ok q, b₂') ∧
      (IsAuthData key → render p.sql = "" ∧ render q.sql = "") ∧
      (¬ IsAuthData key → ∀ row, p.truth row b₁' = .yes ↔ q.truth row b₂' ≠ .yes) := by
  obtain ⟨p, b₁', q, b₂', hp, hq, hempty, hmember⟩ := predicate_members c hkey list b₁ b₂
  refine ⟨p, b₁', q, b₂', hp, hq, hempty, fun hauth row => ?_⟩
  obtain ⟨hptruth, hqtruth⟩ := hmember hauth row
  rw [hptruth, hqtruth]
  exact Operator.member_complement row (c.subject key) list

/-- A schema with a document, a list, a text and a field that is named like auth data. -/
def variedContext : Context :=
  ⟨⟨"Post", [("meta", .ofType .object), ("items", .ofType .array), ("title", .ofType .string),
    ("_auth_data_mail", .ofType .string)], none, []⟩, false, ⟨0, 0⟩⟩

theorem membership_complements_title :
    ∃ p b₁' q b₂',
      predicate variedContext [("title", .object [("$in", .array [.string "a", .null])])] ⟨1, []⟩ =
        (.ok p, b₁') ∧
      predicate variedContext [("title", .object [("$nin", .array [.string "a", .null])])] ⟨1, []⟩ =
        (.ok q, b₂') ∧
      (p.truth (.uniform false) b₁' = .yes ↔ q.truth (.uniform false) b₂' ≠ .yes) := by
  have hkey : ¬ IsUnsafe "title" := (isValidKey_iff _).mp (by decide)
  have hauth : ¬ IsAuthData "title" := (isAuthDataKey_eq_false_iff _).mp (by decide)
  obtain ⟨p, b₁', q, b₂', hp, hq, -, hrows⟩ :=
    membership_complements variedContext "title" hkey [.string "a", .null] ⟨1, []⟩ ⟨1, []⟩
  exact ⟨p, b₁', q, b₂', hp, hq, hrows hauth (.uniform false)⟩

/-- Of a field that is named like auth data both keep the same row. -/
theorem membership_not_complementary :
    ∃ p b₁' q b₂',
      predicate variedContext [("_auth_data_mail", .object [("$in", .array [])])] ⟨1, []⟩ = (.ok p, b₁') ∧
      predicate variedContext [("_auth_data_mail", .object [("$nin", .array [])])] ⟨1, []⟩ = (.ok q, b₂') ∧
      ¬ (p.truth (.uniform true) b₁' = .yes ↔ q.truth (.uniform true) b₂' ≠ .yes) :=
  ⟨_, _, _, _, rfl, rfl, fun h => h.mp rfl rfl⟩

/-! ## Lists without members, and lists that name null -/

/-- For a column, a list without members has none, and a list that names null has the nulls unless the column
lists its items in a document. At a place inside a document the empty list is in every list, and no list has
the nulls. -/
theorem membership_edges (c : Context) (key : String) (hkey : ¬ IsUnsafe key) (list : List Json)
    (b₁ b₂ : Bindings) :
    ∃ p b₁' q b₂',
      predicate c [(key, .object [("$in", .array list)])] b₁ = (.ok p, b₁') ∧
      predicate c [(key, .object [("$nin", .array list)])] b₂ = (.ok q, b₂') ∧
      (IsAuthData key → render p.sql = "" ∧ render q.sql = "") ∧
      (¬ IsAuthData key → ∀ row : Row,
        (isDotted key = false →
          (Operator.flatten list = [] → p.truth row b₁' ≠ .yes ∧ q.truth row b₂' = .yes) ∧
          (row.null (Operand.column key).items = true →
            (Operator.listsInDocument (c.subject key) = false → .null ∈ Operator.flatten list →
              p.truth row b₁' = .yes) ∧
            (Operator.listsInDocument (c.subject key) = true → Operator.flatten list ≠ [] →
              p.truth row b₁' ≠ .yes))) ∧
        (isDotted key = true →
          (list = [] → row.isList (Operand.json key).items = true →
            p.truth row b₁' = .yes ∧ q.truth row b₂' ≠ .yes) ∧
          (row.null (Operand.json key).items = true → p.truth row b₁' ≠ .yes))) := by
  obtain ⟨p, b₁', q, b₂', hp, hq, hauthData, hmember⟩ := predicate_members c hkey list b₁ b₂
  refine ⟨p, b₁', q, b₂', hp, hq, hauthData, fun hauth row => ?_⟩
  obtain ⟨hptruth, hqtruth⟩ := hmember hauth row
  rw [hptruth, hqtruth]
  refine ⟨fun hdot => ?_, fun hdot => ?_⟩
  · have hplain : (c.subject key).isDotted = false := hdot
    rw [Operator.member_of_undotted hplain, Operator.member_of_undotted hplain]
    refine ⟨fun hempty => ?_, fun hnull => ⟨fun hlists hmember => ?_, fun hlists hne => ?_⟩⟩
    · rw [Operator.columnIn_of_flatten_nil hempty, Operator.columnIn_of_flatten_nil hempty]
      decide
    · exact Operator.columnIn_of_null_member hlists hmember hnull
    · exact Operator.columnIn_of_null hlists hne hnull
  · have hnested : (c.subject key).isDotted = true := hdot
    rw [Operator.member_of_dotted hnested, Operator.member_of_dotted hnested]
    refine ⟨fun hempty hlist => ?_, fun hnull => Operator.inDocument_of_null hnull⟩
    subst hempty
    exact Operator.inDocument_nil hlist

theorem membership_edges_meta :
    ∃ p b₁' q b₂',
      predicate variedContext [("meta.tags", .object [("$in", .array [])])] ⟨1, []⟩ = (.ok p, b₁') ∧
      predicate variedContext [("meta.tags", .object [("$nin", .array [])])] ⟨1, []⟩ = (.ok q, b₂') ∧
      p.truth (.uniform true) b₁' = .yes ∧ q.truth (.uniform true) b₂' ≠ .yes := by
  have hkey : ¬ IsUnsafe "meta.tags" := (isValidKey_iff _).mp (by decide)
  have hauth : ¬ IsAuthData "meta.tags" := (isAuthDataKey_eq_false_iff _).mp (by decide)
  obtain ⟨p, b₁', q, b₂', hp, hq, -, hrows⟩ :=
    membership_edges variedContext "meta.tags" hkey [] ⟨1, []⟩ ⟨1, []⟩
  exact ⟨p, b₁', q, b₂', hp, hq, ((hrows hauth (.uniform true)).2 rfl).1 rfl rfl⟩

/-- The empty list is in a list inside a document, and a null is in no list of nulls there, nor in one of a
column that lists its items in a document. -/
theorem membership_edges_differ :
    (∃ p b', predicate variedContext [("meta.tags", .object [("$in", .array [])])] ⟨1, []⟩ = (.ok p, b') ∧
      p.truth (.uniform true) b' = .yes) ∧
    (∃ p b', predicate variedContext [("meta.tags", .object [("$in", .array [.null])])] ⟨1, []⟩ =
      (.ok p, b') ∧ p.truth (.uniform false) b' ≠ .yes) ∧
    ∃ p b', predicate variedContext [("items", .object [("$in", .array [.null])])] ⟨1, []⟩ = (.ok p, b') ∧
      p.truth (.uniform false) b' ≠ .yes := by
  have htags : ¬ IsUnsafe "meta.tags" := (isValidKey_iff _).mp (by decide)
  have htagsauth : ¬ IsAuthData "meta.tags" := (isAuthDataKey_eq_false_iff _).mp (by decide)
  have hitems : ¬ IsUnsafe "items" := (isValidKey_iff _).mp (by decide)
  have hitemsauth : ¬ IsAuthData "items" := (isAuthDataKey_eq_false_iff _).mp (by decide)
  refine ⟨?_, ?_, ?_⟩
  · obtain ⟨p, b', hp, htruth⟩ :=
      predicate_member (c := variedContext) htags htagsauth false [] ⟨1, []⟩
    refine ⟨p, b', hp, ?_⟩
    rw [htruth, Operator.member_of_dotted rfl]
    exact (Operator.inDocument_nil rfl).1
  · obtain ⟨p, b', hp, htruth⟩ :=
      predicate_member (c := variedContext) htags htagsauth false [.null] ⟨1, []⟩
    refine ⟨p, b', hp, ?_⟩
    rw [htruth, Operator.member_of_dotted rfl]
    exact Operator.inDocument_of_null rfl
  · obtain ⟨p, b', hp, htruth⟩ :=
      predicate_member (c := variedContext) hitems hitemsauth false [.null] ⟨1, []⟩
    refine ⟨p, b', hp, ?_⟩
    rw [htruth, Operator.member_of_undotted rfl]
    exact Operator.columnIn_of_null rfl (by decide) rfl

end Docstore.Query
