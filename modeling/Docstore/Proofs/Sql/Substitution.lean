import Docstore.Proofs.Sql.Items

/-!
# Statements without numbers

Once the values stand in the places of their placeholders, what is left of a fragment is a template. For a template
that was numbered it is that template, wherever the numbering started (`Fragment.filled?_number`). Values that are bound
later do not change it (`Fragment.filled?_append_values`).
-/

namespace Docstore.Sql

/-- A token with the value in the place of its placeholder, if a value is bound to it. -/
def Token.filled? (b : Bindings) : Token → Option Part
  | text s => some (.text s)
  | name s => some (.name s)
  | literal s => some (.literal s)
  | placeholder n => (b.value? n).map .bind

/-- A fragment whose placeholders are replaced by their values. -/
def Fragment.filled? (b : Bindings) (f : Fragment) : Option Template := f.mapM (Token.filled? b)

/-- Fragments that are certain templates once their placeholders are replaced by their values. -/
abbrev FilledAs (b : Bindings) (fs : List Fragment) (ts : List Template) : Prop :=
  List.Forall₂ (fun f t => Fragment.filled? b f = some t) fs ts

/-- A statement whose placeholders are replaced by their values. -/
def Statement.filled? (s : Statement) : Option Template := Fragment.filled? ⟨1, s.values⟩ s.sql

/-- Values that are bound later leave a placeholder its value. -/
theorem Bindings.value?_append {b : Bindings} {n : Nat} {v : Value} (vs : List Value) (h : b.value? n = some v) :
    (b.append vs).value? n = some v := by
  unfold value? at h ⊢
  split at h
  case isTrue => cases h
  case isFalse hn =>
    obtain ⟨hlt, -⟩ := List.getElem?_eq_some_iff.mp h
    have happend : (b.values ++ vs)[n - b.first]? = b.values[n - b.first]? := List.getElem?_append_left hlt
    exact (if_neg hn).trans (happend.trans h)

theorem Bindings.Holds.append {b : Bindings} {n : Nat} {vs : List Value} (h : b.Holds n vs) (ws : List Value) :
    (b.append ws).Holds n vs := by
  induction vs generalizing n with
  | nil => trivial
  | cons v vs ih => exact ⟨Bindings.value?_append ws h.1, ih h.2⟩

theorem Token.filled?_append_values {b : Bindings} {token : Token} {part : Part} (vs : List Value)
    (h : token.filled? b = some part) : token.filled? (b.append vs) = some part := by
  cases token with
  | text | name | literal => exact h
  | placeholder n =>
      obtain ⟨v, hv, rfl⟩ := Option.map_eq_some_iff.mp h
      rw [filled?, Bindings.value?_append vs hv]
      rfl

namespace Fragment

variable {b : Bindings} {f g : Fragment} {s t : Template}

theorem filled?_cons {token : Token} {part : Part} (htoken : token.filled? b = some part)
    (hf : f.filled? b = some t) : Fragment.filled? b (token :: f) = some (part :: t) := by
  unfold filled? at hf ⊢
  rw [List.mapM_cons, htoken, hf]
  rfl

theorem filled?_text (words : String) (hf : f.filled? b = some t) :
    Fragment.filled? b (.text words :: f) = some (.text words :: t) := filled?_cons rfl hf

theorem filled?_append (hf : f.filled? b = some s) (hg : g.filled? b = some t) :
    Fragment.filled? b (f ++ g) = some (s ++ t) := by
  unfold filled? at hf hg ⊢
  rw [List.mapM_append, hf, hg]
  rfl

theorem filled?_joinFragments (sep : String) {fs : List Fragment} {ts : List Template} (h : FilledAs b fs ts) :
    Fragment.filled? b (joinFragments sep fs) = some (Template.join sep ts) := by
  match h with
  | .nil => rfl
  | .cons hf .nil => exact hf
  | .cons hf (.cons hg hrest) =>
      rw [Template.join_cons_cons, List.append_assoc]
      exact filled?_append hf (filled?_text sep (filled?_joinFragments sep (.cons hg hrest)))

/-- What a numbered template says is the template. -/
theorem filled?_number (ht : .again ∉ t) {next : Nat} (h : b.Holds next t.values) :
    Fragment.filled? b (t.number next) = some t := by
  induction t generalizing next with
  | nil => rfl
  | cons part t ih =>
      have htail : .again ∉ t := fun hm => ht (.tail _ hm)
      cases part with
      | text s | name s | literal s => exact filled?_cons rfl (ih htail h)
      | bind v =>
          have hv : (Token.placeholder next).filled? b = some (.bind v) := by
            rw [Token.filled?, h.1]
            rfl
          exact filled?_cons hv (ih htail h.2)
      | again => exact absurd (.head _) ht

/-- Values that are bound later leave what a fragment says. -/
theorem filled?_append_values (vs : List Value) (h : f.filled? b = some t) :
    Fragment.filled? (b.append vs) f = some t := by
  induction f generalizing t with
  | nil => exact h
  | cons token f ih =>
      rw [filled?, List.mapM_cons] at h
      obtain ⟨part, hpart, h⟩ := Option.bind_eq_some_iff.mp h
      obtain ⟨rest, hrest, h⟩ := Option.bind_eq_some_iff.mp h
      cases h
      exact filled?_cons (token.filled?_append_values vs hpart) (ih hrest)

end Fragment

end Docstore.Sql
