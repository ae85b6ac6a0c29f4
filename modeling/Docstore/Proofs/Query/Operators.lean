import Docstore.Proofs.Query.Conditions
import Docstore.Query.Operator

/-!
# What operators look at

The conditions of a constraint are about nothing but the key that the constraint is on, and strict about
letter case.
-/

namespace Docstore.Query

/-! ## Properties of all tests of clauses -/

namespace Clauses

/-- Every test that the clauses have, if they have any, is of the given kind. -/
def Only (p : Test → Prop) (r : Clauses) : Prop :=
  ∀ cs, r = .ok cs → ∀ t ∈ Condition.testsOfAll cs, p t

variable {p : Test → Prop}

theorem Only.none : Only p none := by
  intro cs h
  cases h
  simp

theorem Only.error (e : Failure) : Only p (.error e) := by
  intro cs h
  cases h

theorem Only.fail (c : Cause) : Only p (fail c) := Only.error _

theorem Only.one {c : Condition} (h : ∀ t ∈ c.tests, p t) : Only p (one c) := by
  intro cs hcs
  cases hcs
  simpa using h

theorem Only.test {t : Test} (h : p t) : Only p (test t) := by
  apply Only.one
  simpa using h

theorem Only.given {α : Type} {r : Result α} {k : α → Clauses} (h : ∀ a, r = .ok a → Only p (k a)) :
    Only p (given r k) := by
  cases r with
  | ok a => exact h a rfl
  | error f => exact Only.error _

theorem append_ok {first second : Clauses} {cs : List Condition} (h : append first second = .ok cs) :
    ∃ as bs, first = .ok as ∧ second = .ok bs ∧ cs = as ++ bs := by
  cases first with
  | error e => cases h
  | ok as =>
      cases second with
      | error e => cases h
      | ok bs =>
          cases h
          exact ⟨as, bs, rfl, rfl, rfl⟩

theorem Only.append {first second : Clauses} (h1 : Only p first) (h2 : Only p second) :
    Only p (append first second) := by
  intro cs h
  obtain ⟨as, bs, ha, hb, rfl⟩ := append_ok h
  rw [Condition.testsOfAll_append]
  exact List.forall_mem_append.mpr ⟨h1 as ha, h2 bs hb⟩

theorem Only.concat {rs : List Clauses} (h : ∀ r ∈ rs, Only p r) : Only p (concat rs) := by
  induction rs with
  | nil => exact Only.none
  | cons r rs ih => exact (h r (by simp)).append (ih fun s hs => h s (.tail _ hs))

end Clauses

/-! ## Operators -/

namespace Operator

open Clauses (Only)

variable (s : Subject)

/-- A test about the subject's key that is strict about letter case. -/
@[simp] abbrev IsAbout (s : Subject) (t : Test) : Prop := t.IsOver (· = s.key) ∧ t.isFolded = false

theorem comparedWith_isOver (v : Json) : (s.comparedWith v).IsOver (· = s.key) := by
  unfold Subject.comparedWith
  split
  · rename_i type _ h
    refine ⟨rfl, ?_⟩
    cases v <;> simp [Subject.castFor?] at h <;> subst h <;> decide
  · rfl

theorem dottedMembership_only (negated : Bool) (v : Option Json) :
    Only (IsAbout s) (dottedMembership s negated v) := by
  unfold dottedMembership
  split
  · split
    · apply Only.one
      cases negated <;> simp [inDocument, notGroup]
    · exact Only.none
  · exact Only.none

theorem valueIn_isAbout (native negated : Bool) (vs : List Value) :
    ∀ t ∈ (valueIn (.column s.key) native negated vs).tests, IsAbout s t := by
  cases native <;> cases negated <;> simp [valueIn, notGroup]

theorem columnIn_isAbout (negated : Bool) (list : List Json) :
    ∀ t ∈ (columnIn s negated list).tests, IsAbout s t := by
  unfold columnIn
  dsimp only
  split
  · simp
  split
  · cases negated <;> simp [listIn]
  split
  · cases negated <;> simp
  split <;> simpa using valueIn_isAbout s _ _ _

theorem membership_only (op : String) (negated : Bool) (v : Option Json) :
    Only (IsAbout s) (membership s op negated v) := by
  unfold membership
  split
  · exact Only.none
  · split
    · exact Only.none
    · exact Only.one (columnIn_isAbout s negated _)
  · exact Only.fail _

theorem notEqual_only (v : Option Json) : Only (IsAbout s) (notEqual s v) := by
  unfold notEqual
  split
  · exact Only.none
  rename_i v
  split
  · exact Only.one (by simp [Subject.list])
  split
  · exact Only.test (by simp [Subject.operand])
  split
  · exact Only.given fun p _ => Only.one (by simp [notGroup, Subject.operand])
  split
  · exact Only.fail _
  · exact Only.one (by simpa [differs] using comparedWith_isOver s v)

theorem equal_only (v : Option Json) : Only (IsAbout s) (equal s v) := by
  unfold equal
  split
  · exact Only.none
  rename_i v
  split
  · exact Only.test (by simp [Subject.operand])
  split
  · exact Only.fail _
  · exact Only.test ⟨comparedWith_isOver s v, rfl⟩

theorem all_only (v : Option Json) : Only (IsAbout s) (all s v) := by
  unfold all
  split
  · split
    · split
      · split
        · exact Only.test (by simp [Subject.list])
        · exact Only.fail _
      · exact Only.test (by simp [Subject.list])
    · split
      · exact Only.test (by simp [Subject.operand])
      · exact Only.none
  · exact Only.none

theorem containedBy_only (v : Option Json) : Only (IsAbout s) (containedBy s v) := by
  unfold containedBy
  split
  · exact Only.none
  · exact Only.test (by simp [Subject.list])
  · exact Only.fail _

theorem present_only (v : Option Json) : Only (IsAbout s) (present s v) := by
  unfold present
  split
  · exact Only.none
  split
  · exact Only.fail _
  split
  · exact Only.test (by simp [Subject.operand])
  · exact Only.test (by simp [Subject.operand])

theorem textSearch_field {field : String} {v : Json} {search : TextSearch}
    (h : textSearch field v = .ok search) : search.field = field := by
  unfold textSearch at h
  split at h
  · simp only [bind, Except.bind] at h
    repeat' split at h
    all_goals cases h
    rfl
  · cases h

theorem text_only (v : Option Json) : Only (IsAbout s) (text s v) := by
  unfold text
  split
  · exact Only.none
  · exact Only.given fun search h => Only.test ⟨textSearch_field h, rfl⟩

theorem regex_only (options v : Option Json) : Only (IsAbout s) (regex s options v) := by
  unfold regex
  split
  · exact Only.none
  · split
    · exact Only.none
    · exact Only.test (by simp [Subject.operand])
  · exact Only.fail _

theorem nearSphere_only (maxDistance v : Option Json) :
    Only (IsAbout s) (nearSphere s maxDistance v) := by
  unfold nearSphere
  split
  · exact Only.none
  apply Only.given
  intro p _
  split
  · exact Only.test ⟨rfl, rfl⟩
  split
  · exact Only.test ⟨rfl, rfl⟩
  · exact Only.error _

theorem withinBox_only (v : Option Json) : Only (IsAbout s) (withinBox s v) := by
  unfold withinBox
  split
  · exact Only.none
  · exact Only.given fun _ _ => Only.given fun _ _ => Only.test ⟨⟨rfl, by decide⟩, rfl⟩
  · exact Only.fail _

theorem centerSphere_only (v : Option Json) : Only (IsAbout s) (centerSphere s v) := by
  unfold centerSphere
  split
  · exact Only.none
  · exact Only.given fun _ _ => Only.given fun _ _ => Only.test ⟨rfl, rfl⟩
  · exact Only.fail _

theorem withinPolygon_only (v : Option Json) : Only (IsAbout s) (withinPolygon s v) := by
  unfold withinPolygon
  split
  · exact Only.none
  · exact Only.given fun _ _ => Only.test ⟨⟨rfl, by decide⟩, rfl⟩

theorem intersects_only (v : Option Json) : Only (IsAbout s) (intersects s v) := by
  unfold intersects
  split
  · exact Only.none
  split
  · exact Only.given fun _ _ => Only.test ⟨rfl, rfl⟩
  · exact Only.fail _

theorem compare_only (now : Time.Instant) (c : Comparison) (v : Option Json) :
    Only (IsAbout s) (compare now s c v) := by
  unfold compare
  split
  · exact Only.none
  split
  · exact Only.none
  split
  · split
    · exact Only.fail _
    · exact Only.given fun _ _ => Only.test (by simp [Subject.operand])
  · exact Only.test ⟨comparedWith_isOver s _, rfl⟩

/-- The operators of a constraint test nothing but its key. -/
theorem constraint_only (now : Time.Instant) (ops : Document) :
    Only (IsAbout s) (constraint now s ops) := by
  unfold constraint
  dsimp only
  have hin : ∀ negated v, Only (IsAbout s) (dottedMembership s negated v) := dottedMembership_only s
  split
  · apply Only.concat
    simp only [List.forall_mem_cons]
    exact ⟨hin _ _, hin _ _, notEqual_only s _, by simp⟩
  · apply Only.concat
    simp only [List.cons_append, List.nil_append, List.forall_mem_cons]
    exact ⟨hin _ _, hin _ _, notEqual_only s _, equal_only s _, membership_only s _ _ _,
      membership_only s _ _ _, all_only s _, present_only s _, containedBy_only s _, text_only s _,
      nearSphere_only s _ _, withinBox_only s _, centerSphere_only s _, withinPolygon_only s _,
      intersects_only s _, regex_only s _ _, compare_only s now _ _, compare_only s now _ _,
      compare_only s now _ _, compare_only s now _ _, by simp⟩

end Operator

end Docstore.Query
