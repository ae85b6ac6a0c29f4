import Docstore.Proofs.Query.Keys

/-!
# Numbered predicates

What a compiled query gives to the statement around it: text over the query's own keys, and placeholders
that are numbered one after the other from the first free one, in the order of the values that are bound.
-/

namespace Docstore.Query

open Docstore.Sql (Fragment Part Template placeholders)

/-! ## Parts of conditions -/

section

variable {α : Type} {pick : Part → Option α} (htext : ∀ s, pick (.text s) = none)
include htext

theorem Operand.filterMap_steps (hliteral : ∀ s, pick (.literal s) = none) (last : String) (cs : List String) :
    (steps last cs).filterMap pick = [] := by
  match cs with
  | [] => rfl
  | [c] => cases hc : isIndex c <;> simp [steps, step, hc, htext, hliteral]
  | c :: d :: cs =>
      have ih := Operand.filterMap_steps hliteral last (d :: cs)
      cases hc : isIndex c <;> simp [steps, step, hc, ih, htext, hliteral]

namespace Condition

mutual

theorem filterMap_template (c : Condition) :
    c.template.filterMap pick = c.tests.flatMap fun t => t.template.filterMap pick := by
  match c with
  | .test t => simp [template]
  | .negate c => simp [template, Sql.words, filterMap_template c, htext]
  | .anyOf css => simp [template, Sql.words, filterMap_templates " OR " css, htext]
  | .allOf css => simp [template, Sql.words, filterMap_templates " AND " css, htext]

/-- What is picked from a conjunction, its words apart, is picked from its tests. -/
theorem filterMap_conjunction (cs : List Condition) :
    (conjunction cs).filterMap pick = (testsOfAll cs).flatMap fun t => t.template.filterMap pick := by
  match cs with
  | [] => rfl
  | [c] => simp [conjunction, filterMap_template c]
  | c :: d :: cs =>
      have ih := filterMap_conjunction (d :: cs)
      rw [conjunction, testsOfAll_cons, List.flatMap_append, ← ih, ← filterMap_template c]
      simp [Sql.words, htext]

theorem filterMap_templates (sep : String) (css : List (List Condition)) :
    (templates sep css).filterMap pick = (testsOfMembers css).flatMap fun t => t.template.filterMap pick := by
  match css with
  | [] => rfl
  | [[]] => simp [templates.eq_def, Sql.words, htext]
  | [c :: cs] =>
      rw [templates.eq_def, testsOfMembers_cons, testsOfMembers_nil, List.append_nil]
      exact filterMap_conjunction (c :: cs)
  | [] :: ds :: rest =>
      have ih := filterMap_templates sep (ds :: rest)
      rw [templates.eq_def, testsOfMembers_cons, testsOfAll_nil, List.nil_append, ← ih]
      simp [Sql.words, htext]
  | (c :: cs) :: ds :: rest =>
      have ih := filterMap_templates sep (ds :: rest)
      rw [templates.eq_def, testsOfMembers_cons, List.flatMap_append, ← ih, ← filterMap_conjunction (c :: cs)]
      simp [Sql.words, htext]

end

end Condition

end

namespace Operand

theorem values_steps (last : String) (cs : List String) : Template.values (steps last cs) = [] :=
  filterMap_steps (fun _ => rfl) (fun _ => rfl) last cs

theorem values_template (x : Operand) : Template.values x.template = [] := by
  cases x with
  | list name native => cases native <;> simp [template, Sql.words, Sql.named]
  | _ => simp [template, path, Sql.words, Sql.named, values_steps]

end Operand

namespace Condition

/-- A conjunction binds what its tests bind. -/
theorem values_conjunction (cs : List Condition) :
    Template.values (conjunction cs) = (testsOfAll cs).flatMap fun t => Template.values t.template :=
  filterMap_conjunction (fun _ => rfl) cs

theorem length_values_of_near {t : Test} {near : Near} (h : t.near? = some near) :
    2 ≤ (Template.values t.template).length := by
  have hd : (Template.values near.distance).length = 2 := rfl
  cases t with
  | isWithin n m ordered =>
      cases ordered <;> cases h
      simp [Test.template, Sql.words, hd]
  | hasDistance n =>
      cases h
      simp [Test.template, Sql.words, hd]
  | _ => cases h

/-- An order by a distance uses the first two values that its test binds. -/
theorem mem_nears {bound : Nat} {ts : List Test} {n : Nat} {near : Near}
    (h : (n, near) ∈ nears bound ts) :
    ∃ t ∈ ts, t.near? = some near ∧ bound ≤ n ∧
      n + 2 ≤ bound + (ts.flatMap fun t => Template.values t.template).length := by
  induction ts generalizing bound with
  | nil => simp [nears] at h
  | cons t ts ih =>
      rw [nears, List.mem_append] at h
      rcases h with h | h
      · simp only [Option.mem_toList, Option.map_eq_some_iff, Prod.mk.injEq] at h
        obtain ⟨m, hm, rfl, rfl⟩ := h
        have hl := length_values_of_near hm
        refine ⟨t, .head _, hm, Nat.le_refl _, ?_⟩
        simp only [List.flatMap_cons, List.length_append]
        omega
      · obtain ⟨u, hu, hn, h1, h2⟩ := ih h
        refine ⟨u, .tail _ hu, hn, by omega, ?_⟩
        simp only [List.flatMap_cons, List.length_append]
        omega

theorem Test.field_of_near {keys : String → Prop} {t : Test} {near : Near} (h : t.IsOver keys)
    (hn : t.near? = some near) : keys near.field := by
  cases t with
  | isWithin n m ordered =>
      cases ordered <;> cases hn
      exact h
  | hasDistance n =>
      cases hn
      exact h
  | _ => cases hn

variable {keys : String → Prop}

theorem orderItem_wellFormed {near : Near} (h : keys near.field) (next : Nat) :
    Fragment.WellFormed (IsNameOf keys) (IsStepOf keys) (orderItem next near) := by
  have hd := Near.distance_wellFormed h
  simp +decide [orderItem, hd next]

/-- Every order is over the keys of the conditions and repeats placeholders of theirs. -/
theorem mem_orders {first : Nat} {cs : List Condition} (h : ∀ t ∈ testsOfAll cs, t.IsOver keys)
    {f : Fragment} (hf : f ∈ orders first cs) :
    Fragment.WellFormed (IsNameOf keys) (IsStepOf keys) f ∧
      ∀ k ∈ placeholders f, k ∈ List.range' first (values cs).length := by
  obtain ⟨⟨n, near⟩, hn, rfl⟩ := List.mem_map.mp hf
  obtain ⟨t, ht, hnear, -, hle⟩ := mem_nears hn
  rw [← values_conjunction] at hle
  refine ⟨orderItem_wellFormed (Test.field_of_near (h t ht) hnear) _, ?_⟩
  intro k hk
  have hk : k ∈ [first + n, first + n + 1] := hk
  simp only [List.mem_cons, List.not_mem_nil, or_false] at hk
  rw [List.mem_range'_1, values]
  omega

end Condition

/-! ## What a query is compiled to -/

/-- What an accepted query's predicate consists of. -/
theorem predicate_ok {c : Context} {q : Document} {b b' : Sql.Bindings} {p : Predicate}
    (h : predicate c q b = (.ok p, b')) :
    ∃ cs, validateQuery q = .ok () ∧ compile c q = .ok cs ∧ p = Predicate.number b.next cs ∧
      b' = b.append (Condition.values cs) := by
  unfold predicate at h
  split at h
  · rename_i cs hcs
    unfold compileQuery at hcs
    split at hcs
    · rename_i hv
      cases h
      exact ⟨cs, hv, hcs, rfl, rfl⟩
    · cases hcs
  · cases h

theorem predicate_of_ok {c : Context} {q : Document} {cs : List Condition}
    (hv : validateQuery q = .ok ()) (hc : compile c q = .ok cs) (b : Sql.Bindings) :
    predicate c q b = (.ok (Predicate.number b.next cs), b.append (Condition.values cs)) := by
  simp [predicate, compileQuery, hv, hc]

/-- A query that is refused because of its keys binds nothing. -/
theorem predicate_of_validateQuery {c : Context} {q : Document} {f : Fault}
    (h : validateQuery q = .error f) (b : Sql.Bindings) : predicate c q b = (.error f, b) := by
  simp [predicate, compileQuery, h, Clauses.fault, Sql.Bindings.append]

namespace Predicate

/-- A predicate over keys of a kind that uses exactly the placeholders from `first` on. -/
structure IsOver (keys : String → Prop) (first count : Nat) (p : Predicate) : Prop where
  wellFormed : Fragment.WellFormed (IsNameOf keys) (IsStepOf keys) p.sql
  placeholders : placeholders p.sql = List.range' first count
  orders : ∀ f ∈ p.orders, Fragment.WellFormed (IsNameOf keys) (IsStepOf keys) f ∧
    ∀ k ∈ Sql.placeholders f, k ∈ List.range' first count

theorem number_isOver {keys : String → Prop} {cs : List Condition}
    (h : ∀ t ∈ Condition.testsOfAll cs, t.IsOver keys) (first : Nat) :
    IsOver keys first (Condition.values cs).length (number first cs) where
  wellFormed := (Condition.conjunction_clean cs h).1 first
  placeholders := (Condition.conjunction_clean cs h).placeholders first
  orders := fun _ hf => Condition.mem_orders h hf

end Predicate

/-- An accepted query's predicate is over the query's keys and numbers the values it binds. -/
theorem predicate_isOver {c : Context} {q : Document} {b b' : Sql.Bindings} {p : Predicate}
    (h : predicate c q b = (.ok p, b')) :
    ∃ vs, b' = b.append vs ∧ p.IsOver (· ∈ fieldKeys q) b.next vs.length := by
  obtain ⟨cs, -, hcs, rfl, rfl⟩ := predicate_ok h
  exact ⟨Condition.values cs, rfl, Predicate.number_isOver (compile_only c q cs hcs) b.next⟩

end Docstore.Query
