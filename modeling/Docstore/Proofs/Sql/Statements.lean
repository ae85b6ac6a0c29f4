import Docstore.Proofs.Sql.Numbering

/-!
# Statements and their values

A statement is exact if its placeholders outside quotes are those of its values, none missing and none
left over. Statements are put together from parts that were numbered at different times; what is shown here
of templates and of written lists is enough to count the placeholders of any such statement.
-/

namespace Docstore.Sql

/-- The placeholders outside quotes are the numbers of the values. -/
def Statement.Exact (s : Statement) : Prop :=
  ∃ ns, readPlaceholders s.text = some ns ∧ ∀ k, k ∈ ns ↔ 1 ≤ k ∧ k ≤ s.values.length

namespace Fragment

/-- Well formed, whatever the names and the constants are. -/
def Readable (f : Fragment) : Prop := WellFormed (fun _ => True) (fun _ => True) f

theorem WellFormed.readable {names literals : String → Prop} {f : Fragment}
    (h : WellFormed names literals f) : f.Readable :=
  h.mono (fun _ _ => trivial) (fun _ _ => trivial)

variable {f g : Fragment} {s : String}

@[simp] theorem readable_nil : Readable [] := trivial

@[simp] theorem readable_text : Readable (.text s :: f) ↔ IsPlain s ∧ f.Readable := Iff.rfl

@[simp] theorem readable_name : Readable (.name s :: f) ↔ f.Detached ∧ f.Readable := by
  simp [Readable]

@[simp] theorem readable_append (hg : g.Detached) :
    Readable (f ++ g) ↔ f.Readable ∧ g.Readable := wellFormed_append hg

/-- Readable behind any token. -/
structure Trailing (f : Fragment) : Prop where
  detached : f.Detached
  readable : f.Readable

theorem Trailing.nil : Trailing [] := ⟨trivial, trivial⟩

theorem Trailing.text (hs : IsPlain s) (hapart : StartsApart s) (hf : f.Readable) :
    Trailing (.text s :: f) := ⟨detached_text hapart, hs, hf⟩

theorem Readable.append (hf : f.Readable) (hg : g.Trailing) : Readable (f ++ g) :=
  (readable_append hg.detached).mpr ⟨hf, hg.readable⟩

/-- A statement of a readable fragment is exact just if the placeholders number the values. -/
theorem Readable.exact_iff {vs : List Value} (hf : f.Readable) :
    Statement.Exact ⟨f, vs⟩ ↔ ∀ k, k ∈ placeholders f ↔ 1 ≤ k ∧ k ≤ vs.length := by
  have hr : readPlaceholders (Statement.text ⟨f, vs⟩) = some (placeholders f) :=
    hf.readPlaceholders_render
  constructor
  · rintro ⟨ns, hns, h⟩
    rw [hr] at hns
    cases hns
    exact h
  · exact fun h => ⟨placeholders f, hr, h⟩

theorem Readable.exact {vs : List Value} (hf : f.Readable)
    (h : ∀ k, k ∈ placeholders f ↔ 1 ≤ k ∧ k ≤ vs.length) : Statement.Exact ⟨f, vs⟩ :=
  hf.exact_iff.mpr h

end Fragment

/-! ## Exact templates -/

namespace Template

/-- A template whose placeholders are those of its values, from whichever one it is numbered. -/
structure Exact (t : Template) : Prop where
  readable : ∀ next, Fragment.Readable (number next t)
  mem_placeholders : ∀ next k, k ∈ placeholders (number next t) ↔ next ≤ k ∧ k < next + (values t).length

/-- An exact template that can stand behind any token. -/
structure Trailing (t : Template) : Prop extends Exact t where
  detached : ∀ next, Fragment.Detached (number next t)

variable {s t : Template}

theorem Trailing.numbered (h : Trailing t) (next : Nat) : Fragment.Trailing (number next t) :=
  ⟨h.detached next, h.readable next⟩

/-- Clean, whatever the names and the constants are. -/
abbrev Fresh (t : Template) : Prop := Clean (fun _ => True) (fun _ => True) t

theorem Clean.fresh {names literals : String → Prop} (h : Clean names literals t) : Fresh t :=
  ⟨fun next => (h.1 next).readable, h.2⟩

theorem Clean.exact {names literals : String → Prop} (h : Clean names literals t) : Exact t where
  readable := fun next => (h.1 next).readable
  mem_placeholders := by
    intro next k
    rw [h.placeholders, List.mem_range'_1]

theorem Exact.append (hs : Exact s) (ht : Trailing t) : Exact (s ++ t) where
  readable := by
    intro next
    rw [number_append]
    exact (hs.readable next).append ⟨ht.detached _, ht.readable _⟩
  mem_placeholders := by
    intro next k
    rw [number_append, placeholders_append, List.mem_append, hs.mem_placeholders,
      ht.mem_placeholders, values_append, List.length_append]
    omega

theorem Trailing.nil : Trailing [] where
  readable := fun _ => trivial
  mem_placeholders := by simp [number]
  detached := fun _ => trivial

theorem Trailing.append (hs : Trailing s) (ht : Trailing t) : Trailing (s ++ t) where
  toExact := hs.toExact.append ht
  detached := by
    intro next
    rw [number_append]
    exact (hs.detached next).append (ht.detached _)

theorem Trailing.words {s : String} (h : Exact (Sql.words s ++ t)) (hs : StartsApart s) :
    Trailing (Sql.words s ++ t) where
  toExact := h
  detached := fun _ => Fragment.detached_text hs

theorem Trailing.flatMap {α : Type} {f : α → Template} (hf : ∀ x, Trailing (f x)) (xs : List α) :
    Trailing (xs.flatMap f) := by
  induction xs with
  | nil => exact .nil
  | cons x xs ih =>
      rw [List.flatMap_cons]
      exact (hf x).append ih

theorem values_join (sep : String) (ts : List Template) :
    values (join sep ts) = ts.flatMap values := by
  match ts with
  | [] => rfl
  | [t] => simp [join]
  | t :: u :: ts => simp [join, Sql.words, values_join sep (u :: ts)]

@[simp] theorem values_listed (vs : List Value) : values (listed vs) = vs := by
  rw [listed, values_join, List.flatMap_map]
  exact List.flatMap_singleton' vs

end Template

/-! ## Lists of fragments -/

section

variable {sep : String}

theorem placeholders_joinFragments (sep : String) (fs : List Fragment) :
    placeholders (joinFragments sep fs) = fs.flatMap placeholders := by
  match fs with
  | [] => rfl
  | [f] => simp [joinFragments]
  | f :: g :: fs => simp [joinFragments, placeholders_joinFragments sep (g :: fs)]

theorem readable_joinFragments (hsep : IsPlain sep) (hapart : StartsApart sep) (fs : List Fragment)
    (h : ∀ f ∈ fs, f.Readable) : (joinFragments sep fs).Readable := by
  match fs with
  | [] => exact Fragment.readable_nil
  | [f] => exact h f (by simp)
  | f :: g :: fs =>
      have ih := readable_joinFragments hsep hapart (g :: fs) fun e he => h e (.tail _ he)
      simp [joinFragments, hsep, hapart, ih, h f (by simp)]

end

/-! ## Written templates -/

namespace Bindings

@[simp] theorem values_append (b : Bindings) (vs : List Value) : (b.append vs).values = b.values ++ vs :=
  rfl

@[simp] theorem next_empty : empty.next = 1 := rfl

@[simp] theorem values_empty : empty.values = [] := rfl

@[simp] theorem next_append (b : Bindings) (vs : List Value) :
    (b.append vs).next = b.next + vs.length := by
  simp [next, append, Nat.add_assoc]

theorem append_append (b : Bindings) (vs ws : List Value) :
    (b.append vs).append ws = b.append (vs ++ ws) := by
  simp [append]

@[simp] theorem writeAll_nil (b : Bindings) : b.writeAll [] = ([], b) := rfl

@[simp] theorem writeAll_cons (b : Bindings) (t : Template) (ts : List Template) :
    b.writeAll (t :: ts) =
      (t.number b.next :: ((b.append t.values).writeAll ts).1,
        ((b.append t.values).writeAll ts).2) := rfl

/-- Writing templates binds their values. -/
theorem writeAll_snd (b : Bindings) (ts : List Template) :
    (b.writeAll ts).2 = b.append (ts.flatMap Template.values) := by
  induction ts generalizing b with
  | nil => simp [append]
  | cons t ts ih => simp [ih, append]

theorem mem_writeAll {b : Bindings} {ts : List Template} {f : Fragment} (h : f ∈ (b.writeAll ts).1) :
    ∃ t ∈ ts, ∃ next, f = t.number next := by
  induction ts generalizing b with
  | nil => cases h
  | cons t ts ih =>
      rw [writeAll_cons] at h
      rcases List.mem_cons.mp h with rfl | h
      · exact ⟨t, .head _, b.next, rfl⟩
      · obtain ⟨u, hu, hf⟩ := ih h
        exact ⟨u, .tail _ hu, hf⟩

theorem writeAll_append (b : Bindings) (ts us : List Template) :
    (b.writeAll (ts ++ us)).1 =
      (b.writeAll ts).1 ++ ((b.append (ts.flatMap Template.values)).writeAll us).1 := by
  induction ts generalizing b with
  | nil => simp [append]
  | cons t ts ih =>
      simp only [List.cons_append, writeAll_cons, ih, List.flatMap_cons, append_append]

/-- Templates that are written and joined are the joined template, numbered. -/
theorem joinFragments_writeAll (sep : String) (b : Bindings) (ts : List Template) :
    joinFragments sep (b.writeAll ts).1 = (Template.join sep ts).number b.next := by
  match ts with
  | [] => rfl
  | [t] => rfl
  | t :: u :: ts =>
      have ih := joinFragments_writeAll sep (b.append t.values) (u :: ts)
      calc joinFragments sep (b.writeAll (t :: u :: ts)).1
          = t.number b.next ++
              .text sep :: joinFragments sep ((b.append t.values).writeAll (u :: ts)).1 := rfl
        _ = (Template.join sep (t :: u :: ts)).number b.next := by
          rw [ih, next_append]
          simp [Template.join, Sql.words, Template.number, Template.number_append]

/-- Written templates have the placeholders between the first free one before and after. -/
theorem mem_placeholders_writeAll {ts : List Template} (h : ∀ t ∈ ts, t.Exact) (b : Bindings) (k : Nat) :
    k ∈ (b.writeAll ts).1.flatMap placeholders ↔
      b.next ≤ k ∧ k < b.next + (ts.flatMap Template.values).length := by
  induction ts generalizing b with
  | nil =>
      simp only [writeAll_nil, List.flatMap_nil, List.not_mem_nil, List.length_nil, Nat.add_zero,
        false_iff]
      omega
  | cons t ts ih =>
      have ht := h t (.head _)
      rw [writeAll_cons, List.flatMap_cons, List.mem_append, ht.mem_placeholders,
        ih (fun u hu => h u (.tail _ hu)), next_append, List.flatMap_cons, List.length_append]
      omega

theorem readable_writeAll {ts : List Template} (h : ∀ t ∈ ts, t.Exact) {b : Bindings} {f : Fragment}
    (hf : f ∈ (b.writeAll ts).1) : f.Readable := by
  obtain ⟨t, ht, next, rfl⟩ := mem_writeAll hf
  exact (h t ht).readable next

end Bindings

end Docstore.Sql
