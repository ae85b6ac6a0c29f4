import Docstore.Proofs.Query.Operators
import Docstore.Query.Predicate

/-!
# The keys of queries

The keys that name fields, in a query and in the queries combined in it. Checking a query checks all of
them, and the conditions of a query are about none but them.
-/

namespace Docstore.Query

mutual

/-- The keys that name fields, at every depth of combined queries. -/
def fieldKeys : List (String × Json) → List String
  | [] => []
  | (key, value) :: rest => entryKeys key value ++ fieldKeys rest

def entryKeys (key : String) : Json → List String
  | .array items => if isLogical key then memberKeys items else [key]
  | _ => if isLogical key then [] else [key]

def memberKeys : List Json → List String
  | [] => []
  | .object fields :: rest => fieldKeys fields ++ memberKeys rest
  | _ :: rest => memberKeys rest

end

mutual

/-- The entries that constrain fields, at every depth of combined queries. -/
def fieldEntries : List (String × Json) → List (String × Json)
  | [] => []
  | (key, value) :: rest => entriesIn key value ++ fieldEntries rest

def entriesIn (key : String) : Json → List (String × Json)
  | .array items => if isLogical key then memberEntries items else [(key, .array items)]
  | value => if isLogical key then [] else [(key, value)]

def memberEntries : List Json → List (String × Json)
  | [] => []
  | .object fields :: rest => fieldEntries fields ++ memberEntries rest
  | _ :: rest => memberEntries rest

end

mutual

theorem fieldKeys_eq (q : List (String × Json)) : fieldKeys q = (fieldEntries q).map Prod.fst := by
  match q with
  | [] => rfl
  | (key, value) :: rest =>
      rw [fieldKeys, fieldEntries, List.map_append, entryKeys_eq key value, fieldKeys_eq rest]

theorem entryKeys_eq (key : String) (value : Json) :
    entryKeys key value = (entriesIn key value).map Prod.fst := by
  match value with
  | .array items =>
      rw [entryKeys, entriesIn]
      split
      · exact memberKeys_eq items
      · rfl
  | .null | .bool _ | .number _ | .string _ | .object _ =>
      simp only [entryKeys, entriesIn]
      split <;> rfl

theorem memberKeys_eq (items : List Json) : memberKeys items = (memberEntries items).map Prod.fst := by
  match items with
  | [] => rfl
  | .object fields :: rest =>
      rw [memberKeys, memberEntries, List.map_append, fieldKeys_eq fields, memberKeys_eq rest]
  | .null :: rest | .bool _ :: rest | .number _ :: rest | .string _ :: rest | .array _ :: rest =>
      exact memberKeys_eq rest

end

theorem isLogical_cases {key : String} (h : isLogical key = true) :
    key = "$or" ∨ key = "$and" ∨ key = "$nor" := by
  simpa [isLogical, or_assoc] using h

/-! ## Checked keys -/

theorem validateKey_ok {key : String} (h : validateKey key = .ok ()) : isValidKey key = true := by
  unfold validateKey at h
  split at h
  · assumption
  · cases h

theorem validateKey_ok_iff (key : String) : validateKey key = .ok () ↔ isValidKey key = true := by
  constructor
  · exact validateKey_ok
  · intro h
    rw [validateKey, if_pos h]

theorem validateKey_error {key : String} {f : Fault} (h : validateKey key = .error f) :
    ∃ m, f = .ofCause (.invalidQuery m) := by
  unfold validateKey at h
  split at h
  · cases h
  · cases h
    exact ⟨_, rfl⟩

mutual

theorem validateQuery_ok (q : List (String × Json)) (h : validateQuery q = .ok ()) :
    ∀ key ∈ fieldKeys q, isValidKey key = true := by
  match q with
  | [] => simp [fieldKeys]
  | (key, value) :: rest =>
      rw [validateQuery] at h
      split at h
      · cases h
      · rename_i he
        rw [fieldKeys, List.forall_mem_append]
        exact ⟨validateEntry_ok key value he, validateQuery_ok rest h⟩

theorem validateEntry_ok (key : String) (value : Json) (h : validateEntry key value = .ok ()) :
    ∀ k ∈ entryKeys key value, isValidKey k = true := by
  match value with
  | .array items =>
      rw [validateEntry] at h
      rw [entryKeys]
      split at h
      · simpa only [*, ↓reduceIte] using validateMembers_ok key items h
      · simpa [*] using validateKey_ok h
  | .null | .bool _ | .number _ | .string _ | .object _ =>
      simp only [validateEntry] at h
      simp only [entryKeys]
      split at h
      · cases h
      · simpa [*] using validateKey_ok h

theorem validateMembers_ok (key : String) (items : List Json)
    (h : validateMembers key items = .ok ()) : ∀ k ∈ memberKeys items, isValidKey k = true := by
  match items with
  | [] => simp [memberKeys]
  | .object fields :: rest =>
      rw [validateMembers] at h
      split at h
      · cases h
      · rename_i he
        rw [memberKeys, List.forall_mem_append]
        exact ⟨validateQuery_ok fields he, validateMembers_ok key rest h⟩
  | .null :: _ | .bool _ :: _ | .number _ :: _ | .string _ :: _ | .array _ :: _ => cases h

end

mutual

/-- Checking a query fails as an invalid query and in no other way. -/
theorem validateQuery_error (q : List (String × Json)) {f : Fault} (h : validateQuery q = .error f) :
    ∃ m, f = .ofCause (.invalidQuery m) := by
  match q with
  | [] => cases h
  | (key, value) :: rest =>
      rw [validateQuery] at h
      split at h
      · rename_i he
        cases h
        exact validateEntry_error key value he
      · exact validateQuery_error rest h

theorem validateEntry_error (key : String) (value : Json) {f : Fault}
    (h : validateEntry key value = .error f) : ∃ m, f = .ofCause (.invalidQuery m) := by
  match value with
  | .array items =>
      rw [validateEntry] at h
      split at h
      · exact validateMembers_error key items h
      · exact validateKey_error h
  | .null | .bool _ | .number _ | .string _ | .object _ =>
      simp only [validateEntry] at h
      split at h
      · cases h
        exact ⟨_, rfl⟩
      · exact validateKey_error h

theorem validateMembers_error (key : String) (items : List Json) {f : Fault}
    (h : validateMembers key items = .error f) : ∃ m, f = .ofCause (.invalidQuery m) := by
  match items with
  | [] => cases h
  | .object fields :: rest =>
      rw [validateMembers] at h
      split at h
      · rename_i he
        cases h
        exact validateQuery_error fields he
      · exact validateMembers_error key rest h
  | .null :: _ | .bool _ :: _ | .number _ :: _ | .string _ :: _ | .array _ :: _ =>
      cases h
      exact ⟨_, rfl⟩

end

/-! ## Keys of conditions -/

theorem Operand.IsOver.mono {p q : String → Prop} (hpq : ∀ key, p key → q key) {x : Operand}
    (h : x.IsOver p) : x.IsOver q := by
  cases x with
  | cast key type => exact ⟨hpq key h.1, h.2⟩
  | _ => exact hpq _ h

theorem Test.IsOver.mono {p q : String → Prop} (hpq : ∀ key, p key → q key) {t : Test}
    (h : t.IsOver p) : t.IsOver q := by
  cases t with
  | constant _ => trivial
  | inEmpty _ => trivial
  | isInside field shape literal => exact ⟨hpq field h.1, h.2⟩
  | covers field literal => exact hpq field h
  | matchesText search => exact hpq search.field h
  | isWithin near _ _ => exact hpq near.field h
  | hasDistance near => exact hpq near.field h
  | _ => exact Operand.IsOver.mono hpq h

open Clauses (Only)

theorem Clauses.Only.mono {p q : Test → Prop} (hpq : ∀ t, p t → q t) {r : Clauses} (h : Only p r) :
    Only q r := fun cs hcs t ht => hpq t (h cs hcs t ht)

theorem literalClauses_only (s : Subject) (v : Json) : Only (Operator.IsAbout s) (literalClauses s v) := by
  unfold literalClauses
  split
  · split
    · exact Only.test ⟨⟨rfl, by decide⟩, rfl⟩
    split
    · exact Only.test (by simp [Subject.operand])
    · exact Only.test (by simp [Subject.operand])
  · exact Only.none
  · split
    · exact Only.test (by simp [Subject.operand])
    · exact Only.test (by simp [Subject.operand])

theorem typedClauses_only (s : Subject) (tag : String) (v : Json) :
    Only (Operator.IsAbout s) (typedClauses s tag v) := by
  unfold typedClauses
  split
  · split
    · exact Only.test (by simp [Subject.list])
    · exact Only.test (by simp [Subject.operand])
  split
  · exact Only.given fun _ _ => Only.test (by simp [Subject.operand])
  split
  · exact Only.given fun _ _ => Only.test (by simp [Subject.operand])
  split
  · exact Only.given fun _ _ => Only.test (by simp [Subject.operand])
  · exact Only.none

/-- The conditions of a constraint are about its key. -/
theorem fieldClauses_only (c : Context) (key : String) (value : Json) :
    Only (Test.IsOver (· = key)) (fieldClauses c key value) := by
  unfold fieldClauses
  dsimp only
  split
  · exact Only.test (by simp [Subject.operand])
  split
  · exact Only.test (by simp [Subject.operand])
  · split
    · exact (typedClauses_only _ _ _).mono fun t ht => ht.1
    · exact (Operator.constraint_only _ _ _).mono fun t ht => ht.1
  · exact (literalClauses_only _ _).mono fun t ht => ht.1

theorem required_only {p : Test → Prop} {key : String} {value : Json} {r : Clauses} (h : Only p r) :
    Only p (required key value r) := by
  unfold required
  split
  · exact Only.fail _
  · exact h

theorem combine_tests (op : String) (members : List (List Condition)) {p : Test → Prop}
    (hp : ∀ b, p (.constant b)) (h : ∀ t ∈ Condition.testsOfMembers members, p t) :
    ∀ t ∈ (combine op members).tests, p t := by
  unfold combine
  split
  · simpa using hp _
  · repeat' split
    all_goals exact h

theorem after_ok {α β : Type} {vs : List Value} {r : Except Failure α} {f : α → β} {b : β}
    (h : Clauses.after vs r f = .ok b) : ∃ a, r = .ok a ∧ b = f a := by
  cases r with
  | ok a =>
      cases h
      exact ⟨a, rfl, rfl⟩
  | error e => cases h

section

variable {p : Test → Prop}

mutual

/-- The tests of a query are those of its entries, at every depth, and constants. -/
theorem compile_forall (hconstant : ∀ b, p (.constant b)) (c : Context) (q : List (String × Json))
    (h : ∀ e ∈ fieldEntries q, Only p (fieldClauses c e.1 e.2)) : Only p (compile c q) := by
  match q with
  | [] => exact Only.none
  | (key, value) :: rest =>
      rw [fieldEntries, List.forall_mem_append] at h
      have hrest := compile_forall hconstant c rest h.2
      rw [compile]
      split
      · exact hrest
      · exact (compileEntry_forall hconstant c key value h.1).append hrest

theorem compileEntry_forall (hconstant : ∀ b, p (.constant b)) (c : Context) (key : String) (value : Json)
    (h : ∀ e ∈ entriesIn key value, Only p (fieldClauses c e.1 e.2)) : Only p (compileEntry c key value) := by
  match value with
  | .array items =>
      rw [entriesIn] at h
      rw [compileEntry]
      split
      · rename_i hl
        rw [if_pos hl] at h
        split
        · rename_i members hmembers
          exact Only.one (combine_tests key members hconstant
            (compileMembers_forall hconstant c key items h hmembers))
        · exact Only.error _
      · rename_i hl
        rw [if_neg hl] at h
        exact required_only (h (key, .array items) (.head _))
  | .null | .bool _ | .number _ | .string _ | .object _ =>
      simp only [entriesIn] at h
      simp only [compileEntry]
      split
      · exact Only.fail _
      · rename_i hl
        rw [if_neg hl] at h
        exact required_only (h _ (.head _))

theorem compileMembers_forall (hconstant : ∀ b, p (.constant b)) (c : Context) (key : String)
    (items : List Json) (h : ∀ e ∈ memberEntries items, Only p (fieldClauses c e.1 e.2))
    {css : List (List Condition)} (hcss : compileMembers c key items = .ok css) :
    ∀ t ∈ Condition.testsOfMembers css, p t := by
  match items with
  | [] =>
      cases hcss
      simp
  | .object fields :: rest =>
      rw [memberEntries, List.forall_mem_append] at h
      rw [compileMembers] at hcss
      split at hcss
      · rename_i cs hcs
        obtain ⟨dss, hdss, rfl⟩ := after_ok hcss
        rw [Condition.testsOfMembers_cons, List.forall_mem_append]
        exact ⟨compile_forall hconstant c fields h.1 cs hcs,
          compileMembers_forall hconstant c key rest h.2 hdss⟩
      · cases hcss
  | .null :: _ | .bool _ :: _ | .number _ :: _ | .string _ :: _ | .array _ :: _ => cases hcss

end

end

/-- The conditions of a query are about its keys. -/
theorem compile_only (c : Context) (q : List (String × Json)) :
    Only (Test.IsOver (· ∈ fieldKeys q)) (compile c q) := by
  refine compile_forall (fun _ => trivial) c q fun e he => ?_
  have hkey : e.1 ∈ fieldKeys q := by
    rw [fieldKeys_eq]
    exact List.mem_map_of_mem he
  exact (fieldClauses_only c e.1 e.2).mono fun t ht => ht.mono fun k hk => hk ▸ hkey

end Docstore.Query
