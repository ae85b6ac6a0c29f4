import Docstore.Proofs.Query.Rows
import Docstore.Proofs.Query.Unconstrained
import Mathlib.Data.List.Forall2

/-!
# Predicates behind other values

Wherever a query's values are bound, it becomes the same predicate but for the numbers of its placeholders,
which all move by as much. So all statements keep to the same rows for the same query, whatever they bind
before it. Main statement: `predicate_equivariant`.
-/

namespace Docstore.Sql

/-! ## Placeholders that move together -/

/-- The same lexeme, or a placeholder that stands as much later. -/
def Lexeme.ShiftedBy (d : Int) : Lexeme → Lexeme → Prop
  | .placeholder m, .placeholder n => (m : Int) = n + d
  | l, l' => l = l'

/-- Texts that are equal but for placeholders that all stand as much later in the first. -/
def ShiftedBy (d : Int) (s s' : String) : Prop :=
  ∃ ls ls', read s = some ls ∧ Lexeme.render ls = s ∧ read s' = some ls' ∧ Lexeme.render ls' = s' ∧
    List.Forall₂ (Lexeme.ShiftedBy d) ls ls'

namespace Template

theorem number_shiftedBy {t : Template} (ht : .again ∉ t) (m n : Nat) :
    List.Forall₂ (Lexeme.ShiftedBy (m - n)) (Fragment.lexemes (number m t))
      (Fragment.lexemes (number n t)) := by
  induction t generalizing m n with
  | nil => exact .nil
  | cons part t ih =>
      have htail : .again ∉ t := fun h => ht (.tail _ h)
      cases part with
      | text s =>
          apply List.rel_append
          · exact List.forall₂_map_left_iff.mpr (List.forall₂_map_right_iff.mpr
              (List.forall₂_same.mpr fun _ _ => rfl))
          · exact ih htail m n
      | name s | literal s => exact .cons rfl (ih htail m n)
      | bind v =>
          have hrest := ih htail (m + 1) (n + 1)
          have hd : ((m + 1 : Nat) : Int) - (n + 1 : Nat) = m - n := by omega
          rw [hd] at hrest
          refine .cons ?_ hrest
          show (m : Int) = n + (m - n)
          omega
      | again => exact absurd (.head _) ht

theorem render_shiftedBy {names literals : String → Prop} {t : Template} (ht : Clean names literals t)
    (m n : Nat) : ShiftedBy (m - n) (render (number m t)) (render (number n t)) :=
  ⟨_, _, (ht.1 m).read_render, Fragment.render_lexemes _, (ht.1 n).read_render,
    Fragment.render_lexemes _, number_shiftedBy ht.2 m n⟩

end Template

end Docstore.Sql

namespace Docstore.Query

open Docstore.Sql (Bindings Fragment Item ShiftedBy Statement Template Truth read render words)

/-! ## Predicates -/

section

variable {keys : String → Prop}

theorem Condition.orderItem_eq (next : Nat) (near : Near) :
    orderItem next near = (near.distance ++ words " ASC").number next := by
  simp [orderItem, Template.number_append, words, Template.number]

theorem Condition.order_clean {near : Near} (h : keys near.field) :
    Template.Clean (IsNameOf keys) (IsStepOf keys) (near.distance ++ words " ASC") := by
  constructor
  · intro next
    rw [← orderItem_eq]
    exact orderItem_wellFormed h next
  · simp [Near.distance, words, Sql.named, Sql.boundPoint, Sql.boundDouble, Sql.value]

theorem Condition.orders_shiftedBy {cs : List Condition} (h : ∀ t ∈ testsOfAll cs, t.IsOver keys)
    (m n : Nat) :
    List.Forall₂ (ShiftedBy (m - n)) ((orders m cs).map render) ((orders n cs).map render) := by
  simp only [orders, List.map_map, List.forall₂_map_left_iff, List.forall₂_map_right_iff,
    List.forall₂_same]
  rintro ⟨bound, near⟩ hnear
  obtain ⟨t, ht, hfield, -⟩ := mem_nears hnear
  have hclean := order_clean (Test.field_of_near (h t ht) hfield)
  have hshift := Template.render_shiftedBy hclean (m + bound) (n + bound)
  have hd : ((m + bound : Nat) : Int) - (n + bound : Nat) = m - n := by omega
  rw [hd, ← orderItem_eq, ← orderItem_eq] at hshift
  exact hshift

end

/-- Behind any values a query is refused with the same error, or accepted with the same text search, with text
and orders whose placeholders are as far from the ones behind other values as the first free ones are, and
with the same values. -/
def IsEquivariant (c : Context) (q : Document) : Prop :=
  ∀ b b' : Bindings,
    (∃ f vs, predicate c q b = (.error f, b.append vs) ∧ predicate c q b' = (.error f, b'.append vs)) ∨
    ∃ p p' vs, predicate c q b = (.ok p, b.append vs) ∧ predicate c q b' = (.ok p', b'.append vs) ∧
      p.search = p'.search ∧ ShiftedBy (b.next - b'.next) (render p.sql) (render p'.sql) ∧
      List.Forall₂ (ShiftedBy (b.next - b'.next)) (p.orders.map render) (p'.orders.map render)

theorem predicate_isEquivariant (c : Context) (q : Document) : IsEquivariant c q := by
  intro b b'
  cases h : compileQuery c q with
  | error e => exact .inl ⟨e.fault, e.bound, by rw [predicate, h], by rw [predicate, h]⟩
  | ok cs =>
      have hcompile : compile c q = .ok cs := by
        unfold compileQuery at h
        split at h
        · exact h
        · cases h
      have hover := compile_only c q cs hcompile
      have hpredicate (b : Bindings) :
          predicate c q b = (.ok (Predicate.number b.next cs), b.append (Condition.values cs)) := by
        rw [predicate, h]
      exact .inr ⟨_, _, Condition.values cs, hpredicate b, hpredicate b', rfl,
        Template.render_shiftedBy (Condition.conjunction_clean cs hover) b.next b'.next,
        Condition.orders_shiftedBy hover b.next b'.next⟩

/-! ## Statements -/

/-- A statement for the rows of a query, behind what it binds before the query's values. -/
inductive IsFor (schema : Schema) (now : Time.Instant) (query : Document) : Bindings → Statement → Prop
  | find {options : FindOptions} {s : Statement} (hcase : options.ignoreCase = false)
      (h : Query.find schema now query options = .ok s) : IsFor schema now query .empty s
  | count {s : Statement} (h : Query.count schema now query = .ok s) : IsFor schema now query .empty s
  | distinct {field : String} {s : Statement} (h : Query.distinct schema now field query = .ok s) :
      IsFor schema now query .empty s
  | delete {s : Statement} (h : Query.delete schema now query = .ok s) : IsFor schema now query .empty s
  | update {u : Write.Update} {s : Statement} (h : u.statement schema now query = .ok s) :
      IsFor schema now query u.written.2 s

section

variable {schema : Schema} {now : Time.Instant} {query : Document} {b : Bindings} {s : Statement}

theorem IsFor.isAround (h : IsFor schema now query b s) : IsAround ⟨schema, false, now⟩ query b s := by
  cases h with
  | find hcase h =>
      have haround := find_isAround h
      rwa [hcase] at haround
  | count h => exact count_isAround h
  | distinct h => exact distinct_isAround h
  | delete h => exact delete_isAround h
  | update h => exact update_isAround h

theorem IsFor.first_eq (h : IsFor schema now query b s) : b.first = 1 := by
  cases h with
  | update h => rw [Write.Update.written, Bindings.writeAll_snd]; rfl
  | _ => rfl

end

/-- A statement of which one part is the clause of a predicate, and that part says what the given items say
when the statement's values are filled in. -/
def HasClause (s : Statement) (p : Predicate) (clause : List Item) : Prop :=
  ∃ before after ls, s.sql = before ++ p.whereClause ++ after ∧ read (render p.whereClause) = some ls ∧
    (Bindings.mk 1 s.values).items ls = clause

/-- The clause of conditions, with their values in it. -/
def clauseItems (cs : List Condition) : List Item :=
  if cs.isEmpty then [] else Item.text " WHERE " ++ (Condition.conjunction cs).items

theorem whereClause_items {keys : String → Prop} {cs : List Condition}
    (h : ∀ t ∈ Condition.testsOfAll cs, t.IsOver keys) {b : Bindings} {next : Nat}
    (hb : b.Holds next (Condition.values cs)) :
    ∃ ls, read (render (Predicate.number next cs).whereClause) = some ls ∧ b.items ls = clauseItems cs := by
  rw [Predicate.whereClause, Predicate.isEmpty_number]
  cases cs with
  | nil => exact ⟨[], rfl, rfl⟩
  | cons c cs =>
      have hclean := (Condition.conjunction_clean _ h).words_append (s := " WHERE ") (by decide)
      have hitems : b.items (Fragment.lexemes (Template.number next _)) = _ :=
        Template.items_number hclean.2 hb
      rw [Template.items_append, Template.items_words] at hitems
      exact ⟨_, (hclean.1 next).read_render, hitems⟩

/-- A query is compiled to the same predicate behind any values, and every statement for a query has the clause
that every other one has, so that all keep to the same rows. -/
theorem predicate_equivariant :
    (∀ (c : Context) (q : Document), IsEquivariant c q) ∧
    ∀ (schema : Schema) (now : Time.Instant) (query : Document),
      ∃ (clause : List Item) (truth : Row → Truth), ∀ (b : Bindings) (s : Statement),
        IsFor schema now query b s →
          ∃ p b', predicate ⟨schema, false, now⟩ query b = (.ok p, b') ∧ HasClause s p clause ∧
            ∀ row, p.truth row ⟨1, s.values⟩ = truth row := by
  refine ⟨predicate_isEquivariant, fun schema now query => ?_⟩
  cases h : compile ⟨schema, false, now⟩ query with
  | error e =>
      -- No statement is written for a query that is refused.
      refine ⟨[], fun _ => .unknown, fun b s hs => ?_⟩
      obtain ⟨p, b', hp, -⟩ := hs.isAround
      obtain ⟨cs, -, hcs, -⟩ := predicate_ok hp
      cases hcs.symm.trans h
  | ok cs =>
      refine ⟨clauseItems cs, fun row => Condition.truthOfAll row cs, fun b s hs => ?_⟩
      obtain ⟨p, b', hp, hpart, before, after, hsql⟩ := hs.isAround
      obtain ⟨ds, -, hds, rfl, rfl⟩ := predicate_ok hp
      cases hds.symm.trans h
      have hholds : (Bindings.mk 1 s.values).Holds b.next (Condition.values cs) :=
        Bindings.holds_of_prefix hs.first_eq.symm hpart
      obtain ⟨ls, hread, hitems⟩ := whereClause_items (compile_only _ query cs h) hholds
      exact ⟨_, _, hp, ⟨before, after, ls, hsql, hread, hitems⟩, Predicate.truth_number h hholds⟩

/-- The title of a page is compared in an update as it is in a count. -/
theorem predicate_equivariant_titles :
    ∃ u s s' p p' b b', Write.update bareContext.schema [("title", .string "y")] = .ok u ∧
      u.statement bareContext.schema ⟨0, 0⟩ [("title", .string "x")] = .ok s ∧
      count bareContext.schema ⟨0, 0⟩ [("title", .string "x")] = .ok s' ∧
      predicate bareContext [("title", .string "x")] u.written.2 = (.ok p, b) ∧
      predicate bareContext [("title", .string "x")] .empty = (.ok p', b') ∧
      ∃ clause, HasClause s p clause ∧ HasClause s' p' clause := by
  obtain ⟨clause, truth, hrows⟩ :=
    predicate_equivariant.2 bareContext.schema ⟨0, 0⟩ [("title", .string "x")]
  obtain ⟨u, s, hu, hs⟩ : ∃ u s, Write.update bareContext.schema [("title", .string "y")] = .ok u ∧
      u.statement bareContext.schema ⟨0, 0⟩ [("title", .string "x")] = .ok s := ⟨_, _, rfl, rfl⟩
  obtain ⟨s', hs'⟩ : ∃ s', count bareContext.schema ⟨0, 0⟩ [("title", .string "x")] = .ok s' := ⟨_, rfl⟩
  obtain ⟨p, b, hp, hclause, -⟩ := hrows _ s (.update hs)
  obtain ⟨p', b', hp', hclause', -⟩ := hrows _ s' (.count hs')
  exact ⟨u, s, s', p, p', b, b', hu, hs, hs', hp, hp', clause, hclause, hclause'⟩

end Docstore.Query
