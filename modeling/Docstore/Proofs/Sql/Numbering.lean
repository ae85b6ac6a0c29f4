import Docstore.Proofs.Sql.Reader

/-!
# Numbered templates

How well-formed fragments are put together, and which placeholders a numbered template has: a template
that repeats no value has consecutive ones, in the order of its values.
-/

namespace Docstore.Sql

/-! ## Putting fragments together -/

namespace Fragment

variable {names literals : String → Prop}

@[simp] theorem detached_nil : Detached [] := trivial

@[simp] theorem detached_text {s : String} {f : Fragment} (h : StartsApart s) :
    Detached (.text s :: f) := by
  obtain ⟨c, hc, h⟩ := h
  cases hs : s.toList with
  | nil => simp [hs] at hc
  | cons d ds =>
      have hd : d = c := by simpa [hs] using hc
      simpa [Detached, hs, hd] using h

theorem Detached.append {f g : Fragment} (hf : Detached f) (hg : Detached g) : Detached (f ++ g) := by
  match f with
  | [] => exact hg
  | .text s :: rest =>
      simp only [Detached, List.cons_append] at hf ⊢
      split
      · rename_i hs
        rw [hs] at hf
        exact Detached.append hf hg
      · rename_i c cs hs
        rw [hs] at hf
        exact hf

theorem Detached.of_append {f g : Fragment} (h : Detached (f ++ g)) : Detached f := by
  match f with
  | [] => trivial
  | .text s :: rest =>
      simp only [Detached, List.cons_append] at h ⊢
      split
      · rename_i hs
        rw [hs] at h
        exact Detached.of_append h
      · rename_i c cs hs
        rw [hs] at h
        exact h

@[simp] theorem wellFormed_nil : WellFormed names literals [] := trivial

@[simp] theorem wellFormed_text {s : String} {f : Fragment} :
    WellFormed names literals (.text s :: f) ↔ IsPlain s ∧ WellFormed names literals f := Iff.rfl

@[simp] theorem wellFormed_name {s : String} {f : Fragment} :
    WellFormed names literals (.name s :: f) ↔
      names s ∧ Detached f ∧ WellFormed names literals f := Iff.rfl

@[simp] theorem wellFormed_literal {s : String} {f : Fragment} :
    WellFormed names literals (.literal s :: f) ↔
      literals s ∧ Detached f ∧ WellFormed names literals f := Iff.rfl

@[simp] theorem wellFormed_placeholder {n : Nat} {f : Fragment} :
    WellFormed names literals (.placeholder n :: f) ↔
      Detached f ∧ WellFormed names literals f := Iff.rfl

/-- A fragment in front of one that does not go on with it. -/
@[simp] theorem wellFormed_append {f g : Fragment} (hg : Detached g) :
    WellFormed names literals (f ++ g) ↔ WellFormed names literals f ∧ WellFormed names literals g := by
  match f with
  | [] => simp [WellFormed]
  | .text s :: rest => simp [WellFormed, wellFormed_append hg, and_assoc]
  | .name s :: rest =>
      have hd : Detached (rest ++ g) ↔ Detached rest := ⟨Detached.of_append, fun h => h.append hg⟩
      simp [WellFormed, wellFormed_append hg, hd, and_assoc]
  | .literal s :: rest =>
      have hd : Detached (rest ++ g) ↔ Detached rest := ⟨Detached.of_append, fun h => h.append hg⟩
      simp [WellFormed, wellFormed_append hg, hd, and_assoc]
  | .placeholder n :: rest =>
      have hd : Detached (rest ++ g) ↔ Detached rest := ⟨Detached.of_append, fun h => h.append hg⟩
      simp [WellFormed, wellFormed_append hg, hd, and_assoc]

theorem WellFormed.mono {f : Fragment} {names' literals' : String → Prop}
    (hn : ∀ s, names s → names' s) (hl : ∀ s, literals s → literals' s) (h : WellFormed names literals f) :
    WellFormed names' literals' f := by
  match f with
  | [] => trivial
  | .text s :: rest => exact ⟨h.1, WellFormed.mono hn hl h.2⟩
  | .name s :: rest => exact ⟨hn s h.1, h.2.1, WellFormed.mono hn hl h.2.2⟩
  | .literal s :: rest => exact ⟨hl s h.1, h.2.1, WellFormed.mono hn hl h.2.2⟩
  | .placeholder n :: rest => exact ⟨h.1, WellFormed.mono hn hl h.2⟩

end Fragment

@[simp] theorem placeholders_append (f g : Fragment) :
    placeholders (f ++ g) = placeholders f ++ placeholders g :=
  List.filterMap_append

@[simp] theorem placeholders_nil : placeholders [] = [] := rfl

@[simp] theorem placeholders_text (s : String) (f : Fragment) :
    placeholders (.text s :: f) = placeholders f := rfl

@[simp] theorem placeholders_name (s : String) (f : Fragment) :
    placeholders (.name s :: f) = placeholders f := rfl

@[simp] theorem placeholders_literal (s : String) (f : Fragment) :
    placeholders (.literal s :: f) = placeholders f := rfl

@[simp] theorem placeholders_placeholder (n : Nat) (f : Fragment) :
    placeholders (.placeholder n :: f) = n :: placeholders f := rfl

/-! ## Values and numbers of templates -/

namespace Template

@[simp] theorem values_nil : values [] = [] := rfl

@[simp] theorem values_append (s t : Template) : values (s ++ t) = values s ++ values t :=
  List.filterMap_append

@[simp] theorem values_text (s : String) (t : Template) : values (.text s :: t) = values t := rfl

@[simp] theorem values_name (s : String) (t : Template) : values (.name s :: t) = values t := rfl

@[simp] theorem values_literal (s : String) (t : Template) : values (.literal s :: t) = values t := rfl

@[simp] theorem values_bind (v : Value) (t : Template) : values (.bind v :: t) = v :: values t := rfl

@[simp] theorem values_again (t : Template) : values (.again :: t) = values t := rfl

@[simp] theorem values_words (s : String) : values (words s) = [] := rfl

@[simp] theorem values_value (v : Value) : values (value v) = [v] := rfl

theorem number_append (next : Nat) (s t : Template) :
    number next (s ++ t) = number next s ++ number (next + (values s).length) t := by
  match s with
  | [] => rfl
  | .text s :: rest => simp [number, number_append next rest t]
  | .name s :: rest => simp [number, number_append next rest t]
  | .literal s :: rest => simp [number, number_append next rest t]
  | .bind v :: rest =>
      simp [number, number_append (next + 1) rest t, Nat.add_assoc, Nat.add_comm 1]
  | .again :: rest => simp [number, number_append next rest t]

theorem join_cons_cons (sep : String) (t u : Template) (ts : List Template) :
    join sep (t :: u :: ts) = t ++ words sep ++ join sep (u :: ts) := rfl

/-- Values that are not repeated are numbered one after the other. -/
theorem placeholders_number (t : Template) (ht : .again ∉ t) (next : Nat) :
    placeholders (number next t) = List.range' next (values t).length := by
  match t with
  | [] => rfl
  | .text s :: rest => exact placeholders_number rest (fun h => ht (.tail _ h)) next
  | .name s :: rest => exact placeholders_number rest (fun h => ht (.tail _ h)) next
  | .literal s :: rest => exact placeholders_number rest (fun h => ht (.tail _ h)) next
  | .bind v :: rest =>
      have ih := placeholders_number rest (fun h => ht (.tail _ h)) (next + 1)
      simp [number, ih, List.range'_succ]
  | .again :: rest => exact absurd (.head _) ht

/-- A template is well formed from whichever placeholder it is numbered. -/
def WellFormed (names literals : String → Prop) (t : Template) : Prop :=
  ∀ next, Fragment.WellFormed names literals (number next t)

/-- Well formed, and without a value that is repeated. -/
def Clean (names literals : String → Prop) (t : Template) : Prop :=
  WellFormed names literals t ∧ .again ∉ t

namespace Clean

variable {names literals : String → Prop}

theorem nil : Clean names literals [] := ⟨fun _ => trivial, by simp⟩

theorem words {s : String} (hs : IsPlain s) : Clean names literals (words s) :=
  ⟨fun _ => ⟨hs, trivial⟩, by simp [Sql.words]⟩

theorem value (v : Value) : Clean names literals (value v) :=
  ⟨fun _ => ⟨trivial, trivial⟩, by simp [Sql.value]⟩

theorem words_append {s : String} (hs : IsPlain s) {t : Template} (ht : Clean names literals t) :
    Clean names literals (Sql.words s ++ t) := by
  refine ⟨fun next => ⟨hs, ht.1 next⟩, ?_⟩
  simp [Sql.words, ht.2]

/-- Two templates with text between them that tells them apart. -/
theorem separate {s t : Template} {sep : String} (hsep : IsPlain sep) (hapart : StartsApart sep)
    (hs : Clean names literals s) (ht : Clean names literals t) :
    Clean names literals (s ++ Sql.words sep ++ t) := by
  refine ⟨fun next => ?_, by simp [Sql.words, hs.2, ht.2]⟩
  simp [Sql.words, number, number_append, hsep, hapart, hs.1 _, ht.1 _]

theorem enclose {t : Template} {before after : String} (hb : IsPlain before) (ha : IsPlain after)
    (hapart : StartsApart after) (ht : Clean names literals t) :
    Clean names literals (Sql.words before ++ t ++ Sql.words after) := by
  refine ⟨fun next => ?_, by simp [Sql.words, ht.2]⟩
  simp [Sql.words, number, number_append, hb, ha, hapart, ht.1 _]

theorem join {sep : String} (hsep : IsPlain sep) (hapart : StartsApart sep) (ts : List Template)
    (h : ∀ t ∈ ts, Clean names literals t) : Clean names literals (join sep ts) := by
  match ts with
  | [] => exact nil
  | [t] => exact h t (by simp)
  | t :: u :: ts =>
      exact separate hsep hapart (h t (by simp)) (join hsep hapart (u :: ts) fun v hv => h v (.tail _ hv))

theorem listed (vs : List Value) : Clean names literals (listed vs) := by
  apply join (by decide) (by decide)
  intro t ht
  obtain ⟨v, -, rfl⟩ := List.mem_map.mp ht
  exact value v

theorem placeholders {t : Template} (h : Clean names literals t) (next : Nat) :
    placeholders (number next t) = List.range' next (values t).length :=
  placeholders_number t h.2 next

end Clean

end Template

/-! ## Bindings -/

namespace Bindings

theorem eq_of_startingAt? {n : Nat} {b : Bindings} (h : startingAt? n = some b) : b = ⟨n, []⟩ := by
  unfold startingAt? at h
  split at h
  · cases h
  · exact (Option.some.inj h).symm

end Bindings

end Docstore.Sql
