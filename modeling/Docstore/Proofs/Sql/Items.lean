import Docstore.Proofs.Sql.Nesting
import Docstore.Proofs.Sql.Statements
import Mathlib.Data.List.Forall2

/-!
# Statements with their values filled in

What a text says once the placeholders in it stand for the values bound to them. Numbering a template from
a free placeholder on and filling its values in again gives the template's own items, wherever the
numbering starts (`items_number`).
-/

namespace Docstore.Sql

/-- A lexeme with the value in the place of its placeholder. -/
inductive Item
  | char (c : Char)
  | name (s : String)
  | literal (s : String)
  | value (v : Value)

namespace Item

def text (s : String) : List Item := s.toList.map .char

/-- Values between commas. -/
def list : List Value → List Item
  | [] => []
  | [v] => [.value v]
  | v :: vs => .value v :: text ", " ++ list vs

theorem reverse_append_text (ls : List Item) (s : String) :
    (ls ++ text s).reverse = s.toList.reverse.map .char ++ ls.reverse := by
  simp [text]

theorem reverse_append_value (ls : List Item) (v : Value) (s : String) :
    (ls ++ .value v :: text s).reverse = s.toList.reverse.map .char ++ .value v :: ls.reverse := by
  simp [text]

end Item

namespace Bindings

/-- The value that is bound to a placeholder. -/
def value? (b : Bindings) (n : Nat) : Option Value :=
  if n < b.first then none else b.values[n - b.first]?

/-- A placeholder without a value is null. -/
def item (b : Bindings) : Lexeme → Item
  | .char c => .char c
  | .name s => .name s
  | .literal s => .literal s
  | .placeholder n => .value ((b.value? n).getD .null)

def items (b : Bindings) (ls : List Lexeme) : List Item := ls.map b.item

/-- The values are bound one after the other from a placeholder on. -/
def Holds (b : Bindings) : Nat → List Value → Prop
  | _, [] => True
  | n, v :: vs => b.value? n = some v ∧ b.Holds (n + 1) vs

variable {b : Bindings}

theorem holds_append {n : Nat} {vs ws : List Value} :
    b.Holds n (vs ++ ws) ↔ b.Holds n vs ∧ b.Holds (n + vs.length) ws := by
  induction vs generalizing n with
  | nil => simp [Holds]
  | cons v vs ih =>
      rw [List.cons_append, Holds, Holds, ih, List.length_cons, and_assoc, Nat.add_assoc,
        Nat.add_comm 1]

theorem holds_of_values_eq {before vs after : List Value} (h : b.values = before ++ vs ++ after) :
    b.Holds (b.first + before.length) vs := by
  induction vs generalizing before with
  | nil => trivial
  | cons v vs ih =>
      have hrest := @ih (before ++ [v]) (by simpa using h)
      rw [List.length_append, List.length_singleton, ← Nat.add_assoc] at hrest
      refine ⟨?_, hrest⟩
      rw [value?, if_neg (by omega), h, Nat.add_sub_cancel_left]
      simp

/-- Values that were bound after others stay bound. -/
theorem holds_of_prefix {b b' : Bindings} {vs : List Value} (hfirst : b'.first = b.first)
    (h : (b.append vs).values <+: b'.values) : b'.Holds b.next vs := by
  obtain ⟨after, h⟩ := h
  have hholds := holds_of_values_eq (b := b') h.symm
  rwa [hfirst] at hholds

theorem holds_append_self (b : Bindings) (vs : List Value) : (b.append vs).Holds b.next vs :=
  holds_of_prefix rfl (List.prefix_refl _)

/-- Each written text is its template, numbered from where the template's values are bound. -/
theorem holds_writeAll {b b' : Bindings} (ts : List Template) (hfirst : b'.first = b.first)
    (hstarts : (b.writeAll ts).2.values <+: b'.values) :
    List.Forall₂ (fun t f => ∃ next, f = Template.number next t ∧ b'.Holds next t.values) ts (b.writeAll ts).1 := by
  induction ts generalizing b with
  | nil => exact .nil
  | cons t ts ih =>
      rw [writeAll_cons] at hstarts ⊢
      have hholds : b'.Holds b.next t.values := by
        rw [writeAll_snd, values_append] at hstarts
        exact holds_of_prefix hfirst ((List.prefix_append _ _).trans hstarts)
      exact .cons ⟨_, rfl, hholds⟩ (ih hfirst hstarts)

end Bindings

namespace Template

/-- A template's items, of one that repeats no value. -/
def items : Template → List Item
  | [] => []
  | .text s :: t => Item.text s ++ items t
  | .name s :: t => .name s :: items t
  | .literal s :: t => .literal s :: items t
  | .bind v :: t => .value v :: items t
  | .again :: t => items t

theorem items_append (s t : Template) : items (s ++ t) = items s ++ items t := by
  induction s with
  | nil => rfl
  | cons part s ih => cases part <;> simp [items, ih]

@[simp] theorem items_words (s : String) : items (words s) = Item.text s := List.append_nil _

theorem items_listed (vs : List Value) : items (listed vs) = Item.list vs := by
  match vs with
  | [] => rfl
  | [v] => rfl
  | v :: w :: vs =>
      have ih := items_listed (w :: vs)
      have hcons : listed (v :: w :: vs) = value v ++ words ", " ++ listed (w :: vs) := rfl
      rw [hcons, items_append, items_append, ih]
      simp [value, items, Item.list]

/-- Filling in the values of a numbered template undoes the numbering. -/
theorem items_number {b : Bindings} {t : Template} (ht : .again ∉ t) {next : Nat}
    (h : b.Holds next t.values) : b.items (Fragment.lexemes (number next t)) = t.items := by
  induction t generalizing next with
  | nil => rfl
  | cons part t ih =>
      have htail : .again ∉ t := fun hm => ht (.tail _ hm)
      cases part with
      | text s =>
          have hs : b.items (s.toList.map .char) = Item.text s := by
            simp [Bindings.items, Item.text, Bindings.item]
          rw [number, Fragment.lexemes, Bindings.items, List.map_append]
          exact congr (congrArg _ hs) (ih htail h)
      | name s => exact congrArg (Item.name s :: ·) (ih htail h)
      | literal s => exact congrArg (Item.literal s :: ·) (ih htail h)
      | bind v =>
          have hv : b.item (.placeholder next) = .value v := by rw [Bindings.item, h.1]; rfl
          rw [number, Fragment.lexemes, Bindings.items, List.map_cons, hv]
          exact congrArg (Item.value v :: ·) (ih htail h.2)
      | again => exact absurd (.head _) ht

end Template

end Docstore.Sql
