import Docstore.Proofs.Query.Entries
import Docstore.Proofs.Query.KeySafety
import Docstore.Proofs.Results
import Docstore.Query.Select
import Docstore.Write.Update

/-!
# Queries without constraints

A predicate is empty for nothing but a query without constraints, so that a statement touches all rows of a
class only where no entry of its query asks for less. Main statement: `unconstrained_only_if_exempt`.
-/

namespace Docstore.Query

open Docstore.Sql (Bindings Fragment Statement Template joinFragments render)

/-! ## Predicates without constraints -/

theorem validateEntry_of_exempt {schema : Schema} {key : String} {value : Json}
    (h : IsExempt schema key value) :
    validateEntry key value = .ok () ↔ isValidKey key = true := by
  cases hl : isLogical key with
  | true =>
      -- A key that combines queries is none of auth data, and a list has nothing to look up.
      have hkey : isAuthDataKey key = false ∧ isValidKey key = false := by
        rcases isLogical_cases hl with rfl | rfl | rfl <;> decide
      rcases h with hauth | ⟨-, hexists⟩
      · rw [← isAuthDataKey_iff, hkey.1] at hauth
        cases hauth
      · cases value with
        | array items => cases hexists
        | _ => simp [validateEntry, hl, hkey.2, fail]
  | false =>
      rw [← validateKey_ok_iff]
      cases value <;> simp [validateEntry, hl]

theorem validateQuery_of_unconstrained {schema : Schema} {q : Document}
    (h : IsUnconstrained schema q) :
    validateQuery q = .ok () ↔ ∀ e ∈ q, isValidKey e.1 = true := by
  induction q with
  | nil => simp [validateQuery]
  | cons e rest ih =>
      obtain ⟨key, value⟩ := e
      obtain ⟨he, hrest⟩ := List.forall_mem_cons.mp h
      rw [List.forall_mem_cons, ← validateEntry_of_exempt he, ← ih hrest, validateQuery]
      cases validateEntry key value <;> simp

theorem compile_of_unconstrained {c : Context} {q : Document} (h : IsUnconstrained c.schema q) :
    compile c q = .ok [] := by
  induction q with
  | nil => rfl
  | cons e rest ih =>
      obtain ⟨key, value⟩ := e
      have hs := (isSkipped_iff _ _ _).mpr (h (key, value) (.head _))
      rw [compile, if_pos hs]
      exact ih fun e he => h e (.tail _ he)

theorem exists_predicate_empty_iff {c : Context} {q : Document} {b : Bindings} :
    (∃ p b', predicate c q b = (.ok p, b') ∧ render p.sql = "") ↔
      IsUnconstrained c.schema q ∧ ∀ e ∈ q, ¬ IsUnsafe e.1 := by
  constructor
  · rintro ⟨p, b', h, hp⟩
    obtain ⟨parts, -, -, -, hiff⟩ := predicate_parts h
    obtain ⟨-, hv, -⟩ := predicate_ok h
    have hexempt := hiff.mp hp
    have hkeys := (validateQuery_of_unconstrained hexempt).mp hv
    exact ⟨hexempt, fun e he => (isValidKey_iff e.1).mp (hkeys e he)⟩
  · rintro ⟨hexempt, hsafe⟩
    have hv : validateQuery q = .ok () :=
      (validateQuery_of_unconstrained hexempt).mpr fun e he => (isValidKey_iff e.1).mpr (hsafe e he)
    exact ⟨_, _, predicate_of_ok hv (compile_of_unconstrained hexempt) b, rfl⟩

/-- Entries that would be skipped do not get by with an unsafe key: it is refused before anything is bound. -/
theorem refused_of_unconstrained {c : Context} {q : Document} (h : IsUnconstrained c.schema q) {e : String × Json}
    (he : e ∈ q) (hkey : IsUnsafe e.1) (b : Bindings) :
    ∃ m, predicate c q b = (.error (.ofCause (.invalidQuery m)), b) := by
  refine refused_of_validateQuery (fun hv => ?_) b
  have hvalid := (validateQuery_of_unconstrained h).mp hv e he
  exact absurd hkey ((isValidKey_iff e.1).mp hvalid)

/-! ## Statements around predicates -/

/-- A statement that keeps to the rows of a predicate that is not empty. -/
def KeepsTo (s : Statement) (p : Predicate) : Prop :=
  render p.sql ≠ "" ∧ ∃ before after, s.sql = before ++ .text " WHERE " :: p.sql ++ after

theorem unconstrained_or_keepsTo {c : Context} {q : Document} {b b' : Bindings} {p : Predicate}
    (h : predicate c q b = (.ok p, b')) {s : Statement} {before after : Fragment}
    (hs : s.sql = before ++ p.whereClause ++ after) :
    IsUnconstrained c.schema q ∨ KeepsTo s p := by
  obtain ⟨parts, -, -, -, hiff⟩ := predicate_parts h
  by_cases hp : render p.sql = ""
  · exact .inl (hiff.mp hp)
  · have hne : p.isEmpty = false := by
      rw [Predicate.isEmpty, List.isEmpty_eq_false_iff]
      rintro hnil
      exact hp (by rw [hnil]; rfl)
    refine .inr ⟨hp, before, after, ?_⟩
    rw [hs, Predicate.whereClause, hne]
    rfl

/-- A statement with a query's predicate in it, which binds its values first of all behind the given ones. -/
def IsAround (c : Context) (query : Document) (b : Bindings) (s : Statement) : Prop :=
  ∃ p b', predicate c query b = (.ok p, b') ∧ b'.values <+: s.values ∧
    ∃ before after, s.sql = before ++ p.whereClause ++ after

theorem find_isAround {schema : Schema} {now : Time.Instant} {query : Document}
    {options : FindOptions} {s : Statement} (h : find schema now query options = .ok s) :
    IsAround ⟨schema, options.ignoreCase, now⟩ query .empty s := by
  unfold find at h
  generalize hr : predicate ⟨schema, options.ignoreCase, now⟩ query .empty = r at h
  obtain ⟨r, b⟩ := r
  obtain ⟨p, hp, h⟩ := Result.bind_ok h
  obtain ⟨ts, -, h⟩ := Result.bind_ok h
  obtain ⟨order, -, h⟩ := Result.bind_ok h
  cases h
  subst hp
  refine ⟨p, b, hr, ?_, _, _, (List.append_assoc _ _ _).trans (List.append_assoc _ _ _)⟩
  simp [Bindings.writeAll_snd]

theorem find_whereClause {schema : Schema} {now : Time.Instant} {query : Document}
    {options : FindOptions} {s : Statement} (h : find schema now query options = .ok s) :
    ∃ p b, predicate ⟨schema, options.ignoreCase, now⟩ query .empty = (.ok p, b) ∧
      ∃ before after, s.sql = before ++ p.whereClause ++ after := by
  obtain ⟨p, b, hp, -, hs⟩ := find_isAround h
  exact ⟨p, b, hp, hs⟩

theorem aroundPredicate_whereClause {schema : Schema} {now : Time.Instant} {query : Document}
    {sql : Fragment → Fragment} {s : Statement} (h : aroundPredicate schema now query sql = .ok s) :
    ∃ p, predicate ⟨schema, false, now⟩ query .empty = (.ok p, ⟨1, s.values⟩) ∧
      s.sql = sql p.whereClause := by
  unfold aroundPredicate at h
  split at h
  · rename_i p b hr
    cases h
    obtain ⟨cs, -, -, -, rfl⟩ := predicate_ok hr
    exact ⟨p, hr, rfl⟩
  · cases h

theorem count_isAround {schema : Schema} {now : Time.Instant} {query : Document} {s : Statement}
    (h : count schema now query = .ok s) : IsAround ⟨schema, false, now⟩ query .empty s := by
  obtain ⟨p, hp, hs⟩ := aroundPredicate_whereClause h
  exact ⟨p, _, hp, List.prefix_refl _, sqlText "SELECT count(*) FROM " ++ sqlName schema.className, [],
    by simp [hs]⟩

theorem count_whereClause {schema : Schema} {now : Time.Instant} {query : Document} {s : Statement}
    (h : count schema now query = .ok s) :
    ∃ p b, predicate ⟨schema, false, now⟩ query .empty = (.ok p, b) ∧
      ∃ before after, s.sql = before ++ p.whereClause ++ after := by
  obtain ⟨p, b, hp, -, hs⟩ := count_isAround h
  exact ⟨p, b, hp, hs⟩

theorem distinct_isAround {schema : Schema} {now : Time.Instant} {field : String} {query : Document}
    {s : Statement} (h : distinct schema now field query = .ok s) :
    IsAround ⟨schema, false, now⟩ query .empty s := by
  obtain ⟨-, -, h⟩ := Result.bind_ok h
  obtain ⟨p, hp, hs⟩ := aroundPredicate_whereClause h
  exact ⟨p, _, hp, List.prefix_refl _, _, [], hs.trans (List.append_nil _).symm⟩

theorem delete_isAround {schema : Schema} {now : Time.Instant} {query : Document} {s : Statement}
    (h : delete schema now query = .ok s) : IsAround ⟨schema, false, now⟩ query .empty s := by
  obtain ⟨p, hp, hs⟩ := aroundPredicate_whereClause h
  exact ⟨p, _, hp, List.prefix_refl _, _, _, hs⟩

theorem delete_whereClause {schema : Schema} {now : Time.Instant} {query : Document} {s : Statement}
    (h : delete schema now query = .ok s) :
    ∃ p b, predicate ⟨schema, false, now⟩ query .empty = (.ok p, b) ∧
      ∃ before after, s.sql = before ++ p.whereClause ++ after := by
  obtain ⟨p, b, hp, -, hs⟩ := delete_isAround h
  exact ⟨p, b, hp, hs⟩

theorem update_isAround {u : Write.Update} {schema : Schema} {now : Time.Instant}
    {query : Document} {s : Statement} (h : u.statement schema now query = .ok s) :
    IsAround ⟨schema, false, now⟩ query u.written.2 s := by
  unfold Write.Update.statement at h
  split at h
  · rename_i p b hr
    cases h
    exact ⟨p, b, hr, List.prefix_refl _, _, _, rfl⟩
  · cases h

theorem update_whereClause {u : Write.Update} {schema : Schema} {now : Time.Instant}
    {query : Document} {s : Statement} (h : u.statement schema now query = .ok s) :
    ∃ p b, predicate ⟨schema, false, now⟩ query u.written.2 = (.ok p, b) ∧
      ∃ before after, s.sql = before ++ p.whereClause ++ after := by
  obtain ⟨p, b, hp, -, hs⟩ := update_isAround h
  exact ⟨p, b, hp, hs⟩

/-! ## No silent match of everything -/

/-- A predicate is empty exactly for safe keys whose entries are all exempt, and every other entry of an
accepted query has a clause in it. An unsafe key among exempt entries is refused. Statements keep to their
query's predicate unless all entries are exempt, and combined queries are never empty. -/
theorem unconstrained_only_if_exempt :
    (∀ (c : Context) (q : Document) (b : Bindings),
      (∃ p b', predicate c q b = (.ok p, b') ∧ render p.sql = "") ↔
        IsUnconstrained c.schema q ∧ ∀ e ∈ q, ¬ IsUnsafe e.1) ∧
    (∀ (c : Context) (q : Document) (b : Bindings), IsUnconstrained c.schema q → (∃ e ∈ q, IsUnsafe e.1) →
      ∃ m, predicate c q b = (.error (.ofCause (.invalidQuery m)), b)) ∧
    (∀ (c : Context) (q : Document) (b b' : Bindings) (p : Predicate),
      predicate c q b = (.ok p, b') →
        ∃ parts : List (List Condition),
          (constraints c.schema q).map (fun e => compileEntry c e.1 e.2) = parts.map .ok ∧
          (∀ part ∈ parts, part ≠ []) ∧
          p.sql = joinFragments " AND " (Condition.clauses b parts.flatten) ∧
          (render p.sql = "" ↔ IsUnconstrained c.schema q)) ∧
    (∀ (schema : Schema) (now : Time.Instant) (query : Document) (options : FindOptions)
      (s : Statement), find schema now query options = .ok s →
        IsUnconstrained schema query ∨
        ∃ p b, predicate ⟨schema, options.ignoreCase, now⟩ query .empty = (.ok p, b) ∧ KeepsTo s p) ∧
    (∀ (schema : Schema) (now : Time.Instant) (query : Document) (s : Statement),
      count schema now query = .ok s ∨ delete schema now query = .ok s →
        IsUnconstrained schema query ∨
        ∃ p b, predicate ⟨schema, false, now⟩ query .empty = (.ok p, b) ∧ KeepsTo s p) ∧
    (∀ (u : Write.Update) (schema : Schema) (now : Time.Instant) (query : Document) (s : Statement),
      u.statement schema now query = .ok s →
        IsUnconstrained schema query ∨
        ∃ p b, predicate ⟨schema, false, now⟩ query u.written.2 = (.ok p, b) ∧ KeepsTo s p) ∧
    ∀ (c : Context) (key : String) (value : Json) (cs : List Condition), isLogical key = true →
      compileEntry c key value = .ok cs → ∀ next, render ((Condition.conjunction cs).number next) ≠ "" := by
  refine ⟨?_, ?_, ?_, ?_, ?_, ?_, ?_⟩
  · intro c q b
    exact exists_predicate_empty_iff
  · rintro c q b h ⟨e, he, hkey⟩
    exact refused_of_unconstrained h he hkey b
  · intro c q b b' p h
    exact predicate_parts h
  · intro schema now query options s h
    obtain ⟨p, b, hp, before, after, hs⟩ := find_whereClause h
    exact (unconstrained_or_keepsTo hp hs).imp_right fun hk => ⟨p, b, hp, hk⟩
  · intro schema now query s h
    obtain ⟨p, b, hp, before, after, hs⟩ := h.elim count_whereClause delete_whereClause
    exact (unconstrained_or_keepsTo hp hs).imp_right fun hk => ⟨p, b, hp, hk⟩
  · intro u schema now query s h
    obtain ⟨p, b, hp, before, after, hs⟩ := update_whereClause h
    exact (unconstrained_or_keepsTo hp hs).imp_right fun hk => ⟨p, b, hp, hk⟩
  · intro c key value cs _ h next
    exact (Condition.conjunction_hasWords (compileEntry_ne_nil h)).render_ne next

/-- Nothing but auth data and a field that is not there. -/
def exemptQuery : Document :=
  [("_auth_data_mail", .object [("id", .string "1")]), ("gone", .object [("$exists", .bool false)])]

/-- Alternatives of which one is a query without constraints. -/
def loosestQuery : Document :=
  [("gone", .object [("$exists", .bool false)]),
    ("$or", .array [.object exemptQuery, .object [("title", .string "x")]])]

theorem not_isExempt_or (items : List Json) :
    ¬ IsExempt bareContext.schema "$or" (.array items) := by
  rw [← isSkipped_iff]
  exact Bool.false_ne_true

theorem unconstrained_only_if_exempt_loosest :
    (∃ p b', predicate bareContext exemptQuery ⟨1, []⟩ = (.ok p, b') ∧ render p.sql = "") ∧
    (∃ m, predicate bareContext [("gone'", .object [("$exists", .bool false)])] ⟨1, []⟩ =
      (.error (.ofCause (.invalidQuery m)), ⟨1, []⟩)) ∧
    (∃ p b', predicate bareContext loosestQuery ⟨1, []⟩ = (.ok p, b') ∧ render p.sql ≠ "") ∧
    (∃ s p, find bareContext.schema ⟨0, 0⟩ loosestQuery .default = .ok s ∧ KeepsTo s p) ∧
    (∃ s p, delete bareContext.schema ⟨0, 0⟩ loosestQuery = .ok s ∧ KeepsTo s p) ∧
    (∃ u s p, Write.update bareContext.schema [("title", .string "y")] = .ok u ∧
      u.statement bareContext.schema ⟨0, 0⟩ loosestQuery = .ok s ∧ KeepsTo s p) ∧
    ∃ cs, compileEntry bareContext "$nor" (.array [.object exemptQuery]) = .ok cs ∧
      render ((Condition.conjunction cs).number 1) ≠ "" := by
  obtain ⟨hempty, hrefused, hparts, hfind, hdelete, hupdate, hnested⟩ := unconstrained_only_if_exempt
  have hstrict : ¬ IsUnconstrained bareContext.schema loosestQuery := fun h =>
    not_isExempt_or _ (h _ (.tail _ (.head _)))
  refine ⟨?_, ?_, ?_, ?_, ?_, ?_, ?_⟩
  · exact ⟨_, _, rfl, rfl⟩
  · exact hrefused _ _ _ (List.forall_mem_singleton.mpr (.inr ⟨rfl, rfl⟩))
      ⟨_, .head _, .inr (.inr ⟨'\'', by decide, .inr (.inl rfl)⟩)⟩
  · obtain ⟨p, b', h⟩ : ∃ p b', predicate bareContext loosestQuery ⟨1, []⟩ = (.ok p, b') :=
      ⟨_, _, rfl⟩
    obtain ⟨parts, -, -, -, hiff⟩ := hparts _ _ _ _ _ h
    exact ⟨p, b', h, fun he => hstrict (hiff.mp he)⟩
  · obtain ⟨s, h⟩ : ∃ s, find bareContext.schema ⟨0, 0⟩ loosestQuery .default = .ok s := ⟨_, rfl⟩
    obtain ⟨p, b, -, hk⟩ := (hfind _ _ _ _ s h).resolve_left hstrict
    exact ⟨s, p, h, hk⟩
  · obtain ⟨s, h⟩ : ∃ s, delete bareContext.schema ⟨0, 0⟩ loosestQuery = .ok s := ⟨_, rfl⟩
    obtain ⟨p, b, -, hk⟩ := (hdelete _ _ _ s (.inr h)).resolve_left hstrict
    exact ⟨s, p, h, hk⟩
  · obtain ⟨u, s, hu, h⟩ : ∃ u s, Write.update bareContext.schema [("title", .string "y")] = .ok u ∧
        u.statement bareContext.schema ⟨0, 0⟩ loosestQuery = .ok s := ⟨_, _, rfl, rfl⟩
    obtain ⟨p, b, -, hk⟩ := (hupdate u _ _ _ s h).resolve_left hstrict
    exact ⟨u, s, p, hu, h, hk⟩
  · obtain ⟨cs, h⟩ : ∃ cs, compileEntry bareContext "$nor" (.array [.object exemptQuery]) = .ok cs :=
      ⟨_, rfl⟩
    exact ⟨cs, h, hnested _ _ _ cs rfl h 1⟩

/-- An entry of an exempt shape whose key is unsafe is no reason to match everything. -/
theorem exempt_unsafe_refused :
    IsUnconstrained bareContext.schema [("$where", .object [("$exists", .bool false)])] ∧
    ¬ ∃ p b', predicate bareContext [("$where", .object [("$exists", .bool false)])] ⟨1, []⟩ =
      (.ok p, b') := by
  constructor
  · intro e he
    rw [List.mem_singleton.mp he]
    exact .inr ⟨rfl, rfl⟩
  · rintro ⟨p, b', h⟩
    cases h

end Docstore.Query
