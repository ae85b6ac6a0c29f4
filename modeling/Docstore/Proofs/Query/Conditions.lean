import Docstore.Proofs.Sql.Numbering
import Docstore.Query.Condition

/-!
# The text of conditions

Which names and constants the SQL of a condition has, by the keys that its tests are about. Whatever they
are, it has some text.
-/

namespace Docstore.Query

open Docstore.Sql (Fragment Template IsPlain StartsApart Part)
open Docstore.Sql.Fragment (Detached)

/-! ## The keys of tests -/

/-- The types that texts at a place are read as. -/
def castTypes : List String := ["double precision", "boolean"]

/-- The shapes that points are looked for in. -/
def areaShapes : List String := ["box", "polygon"]

/-- An operand at a key of the given kind. -/
@[simp] def Operand.IsOver (keys : String → Prop) : Operand → Prop
  | column name => keys name
  | text key => keys key
  | json key => keys key
  | cast key type => keys key ∧ type ∈ castTypes
  | list name _ => keys name

/-- A test that looks at nothing but keys of the given kind. -/
@[simp] def Test.IsOver (keys : String → Prop) : Test → Prop
  | constant _ => True
  | inEmpty _ => True
  | isNull x => x.IsOver keys
  | isNotNull x => x.IsOver keys
  | equals x _ => x.IsOver keys
  | equalsText x _ => x.IsOver keys
  | equalsFolded x _ => x.IsOver keys
  | differs x _ => x.IsOver keys
  | compares x _ _ => x.IsOver keys
  | matchesPattern x _ _ => x.IsOver keys
  | isIn x _ => x.IsOver keys
  | isNotIn x _ => x.IsOver keys
  | overlaps x _ => x.IsOver keys
  | containsJson x _ => x.IsOver keys
  | hasAny x _ => x.IsOver keys
  | hasAll x _ => x.IsOver keys
  | hasAllLike x _ => x.IsOver keys
  | isContainedBy x _ => x.IsOver keys
  | isPoint x _ => x.IsOver keys
  | isPolygon x _ => x.IsOver keys
  | isInside field shape _ => keys field ∧ shape ∈ areaShapes
  | covers field _ => keys field
  | matchesText search => keys search.field
  | isWithin near _ _ => keys near.field
  | hasDistance near => keys near.field

/-- Whether a test is an equality but for letter case. -/
@[simp] def Test.isFolded : Test → Bool
  | equalsFolded _ _ => true
  | _ => false

namespace Condition

@[simp] theorem tests_test (t : Test) : (test t).tests = [t] := rfl

@[simp] theorem tests_negate (c : Condition) : (negate c).tests = c.tests := rfl

@[simp] theorem tests_anyOf (css : List (List Condition)) : (anyOf css).tests = testsOfMembers css := rfl

@[simp] theorem tests_allOf (css : List (List Condition)) : (allOf css).tests = testsOfMembers css := rfl

@[simp] theorem testsOfAll_nil : testsOfAll [] = [] := rfl

@[simp] theorem testsOfAll_cons (c : Condition) (cs : List Condition) :
    testsOfAll (c :: cs) = c.tests ++ testsOfAll cs := rfl

@[simp] theorem testsOfAll_append (cs ds : List Condition) :
    testsOfAll (cs ++ ds) = testsOfAll cs ++ testsOfAll ds := by
  induction cs with
  | nil => rfl
  | cons c cs ih => simp [ih]

@[simp] theorem testsOfMembers_nil : testsOfMembers [] = [] := rfl

@[simp] theorem testsOfMembers_cons (cs : List Condition) (css : List (List Condition)) :
    testsOfMembers (cs :: css) = testsOfAll cs ++ testsOfMembers css := rfl

end Condition

/-- A key of the given kind, or the field that it starts with. -/
def IsNameOf (keys : String → Prop) (s : String) : Prop := ∃ key, keys key ∧ (s = key ∨ s = root key)

/-- A part of a key of the given kind, behind the field and no index. -/
def IsStepOf (keys : String → Prop) (s : String) : Prop :=
  ∃ key, keys key ∧ s ∈ (components key).tail ∧ Operand.isIndex s = false

/-! ## Operands -/

namespace Operand

theorem isPlain_of_isIndex {s : String} (h : isIndex s = true) : IsPlain s := by
  intro c hc
  simp only [isIndex, ne_eq, Bool.and_eq_true, List.all_eq_true] at h
  have hd := h.2 c hc
  refine ⟨?_, ?_, ?_⟩ <;> rintro rfl <;> simp at hd

/-- Steps start with an arrow, so that what stands before them ends there. -/
theorem steps_number (names : String → Prop) {literals : String → Prop} {last : String}
    (hlast : IsPlain last) (hapart : StartsApart last) (cs : List String)
    (hcs : ∀ c ∈ cs, isIndex c = false → literals c) (next : Nat) :
    Detached (Template.number next (steps last cs)) ∧
      Fragment.WellFormed names literals (Template.number next (steps last cs)) := by
  match cs with
  | [] => exact ⟨trivial, trivial⟩
  | [c] =>
      cases hc : isIndex c with
      | true => simp [steps, step, Template.number, hc, hlast, hapart, isPlain_of_isIndex hc]
      | false => simp [steps, step, Template.number, hc, hlast, hapart, hcs c (by simp) hc]
  | c :: d :: cs =>
      obtain ⟨ih1, ih2⟩ := steps_number names hlast hapart (d :: cs)
        (fun e he => hcs e (.tail _ he)) next
      cases hc : isIndex c with
      | true => simp +decide [steps, step, Template.number, hc, isPlain_of_isIndex hc, ih2]
      | false => simp +decide [steps, step, Template.number, hc, hcs c (by simp) hc, ih1, ih2]

variable {keys : String → Prop}

theorem path_wellFormed (last : String) (hlast : IsPlain last) (hapart : StartsApart last)
    {key : String} (hk : keys key) :
    Template.WellFormed (IsNameOf keys) (IsStepOf keys) (path last key) := by
  intro next
  have hcs : ∀ c ∈ (components key).tail, isIndex c = false → IsStepOf keys c :=
    fun c hc hi => ⟨key, hk, hc, hi⟩
  obtain ⟨h1, h2⟩ := steps_number (IsNameOf keys) hlast hapart (components key).tail hcs next
  exact ⟨⟨key, hk, .inr rfl⟩, h1, h2⟩

theorem template_wellFormed {x : Operand} (h : x.IsOver keys) :
    Template.WellFormed (IsNameOf keys) (IsStepOf keys) x.template := by
  intro next
  cases x with
  | column name => exact ⟨⟨name, h, .inl rfl⟩, trivial, trivial⟩
  | text key => exact path_wellFormed _ (by decide) (by decide) h next
  | json key => exact path_wellFormed _ (by decide) (by decide) h next
  | cast key type =>
      have hp := path_wellFormed "->>" (by decide) (by decide) h.1
      have ht : IsPlain (") AS " ++ type ++ ")") ∧ StartsApart (") AS " ++ type ++ ")") := by
        have hm := h.2
        simp only [castTypes, List.mem_cons, List.not_mem_nil, or_false] at hm
        rcases hm with rfl | rfl <;> decide
      simp +decide [template, Sql.words, Template.number, Template.number_append, hp _, ht]
  | list name native =>
      have hn : IsNameOf keys name := ⟨name, h, .inl rfl⟩
      cases native with
      | true => simp +decide [template, Sql.words, Sql.named, Template.number, hn]
      | false => simp [template, Sql.named, Template.number, hn]

theorem again_not_mem_steps (last : String) (cs : List String) : .again ∉ steps last cs := by
  match cs with
  | [] => simp [steps]
  | [c] => cases hc : isIndex c <;> simp [steps, step, hc]
  | c :: d :: cs =>
      have ih := again_not_mem_steps last (d :: cs)
      cases hc : isIndex c <;> simp [steps, step, hc, ih]

theorem again_not_mem_template (x : Operand) : .again ∉ x.template := by
  cases x with
  | list name native => cases native <;> simp [template, Sql.words, Sql.named]
  | _ => simp [template, path, Sql.words, Sql.named, again_not_mem_steps]

end Operand

/-! ## Tests -/

section

variable {keys : String → Prop}

theorem Near.distance_wellFormed {near : Near} (h : keys near.field) :
    Template.WellFormed (IsNameOf keys) (IsStepOf keys) near.distance := by
  intro next
  have hn : IsNameOf keys near.field := ⟨near.field, h, .inl rfl⟩
  simp +decide [distance, Sql.words, Sql.named, Sql.boundPoint, Sql.boundDouble, Sql.value,
    Template.number, hn]

theorem TextSearch.document_wellFormed {search : TextSearch} (h : keys search.field) :
    Template.WellFormed (IsNameOf keys) (IsStepOf keys) search.document := by
  intro next
  have hx := Operand.template_wellFormed (x := .text search.field) h
  simp +decide [document, configuration, Sql.words, Sql.boundText, Sql.value, Template.number,
    Template.number_append, hx _]

theorem TextSearch.query_wellFormed (search : TextSearch) :
    Template.WellFormed (IsNameOf keys) (IsStepOf keys) search.query := by
  intro next
  simp +decide [query, configuration, Sql.words, Sql.boundText, Sql.value, Template.number]

namespace Test

theorem template_wellFormed {t : Test} (h : t.IsOver keys) :
    Template.WellFormed (IsNameOf keys) (IsStepOf keys) t.template := by
  intro next
  have hx : ∀ {x : Operand}, x.IsOver keys → ∀ n,
      Fragment.WellFormed (IsNameOf keys) (IsStepOf keys) (Template.number n x.template) :=
    fun h => Operand.template_wellFormed h
  have hvs : ∀ (vs : List Value) (n : Nat),
      Fragment.WellFormed (IsNameOf keys) (IsStepOf keys) (Template.number n (Sql.listed vs)) :=
    fun vs n => (Template.Clean.listed vs).1 n
  cases t with
  | constant b => cases b <;> simp +decide [template, Sql.words, Template.number]
  | inEmpty b => cases b <;> simp +decide [template, Sql.words, Template.number]
  | compares x c v =>
      cases c <;> simp +decide [template, Comparison.sql, Sql.words, Sql.value, Template.number,
        Template.number_append, hx h]
  | matchesPattern x ignoreCase pattern =>
      cases ignoreCase <;> simp +decide [template, Sql.words, Sql.boundText, Sql.value,
        Template.number, Template.number_append, hx h]
  | isInside field shape literal =>
      obtain ⟨hk, hs⟩ := h
      have hn : IsNameOf keys field := ⟨field, hk, .inl rfl⟩
      have hw : IsPlain ("::text::" ++ shape) ∧ StartsApart ("::text::" ++ shape) := by
        simp only [areaShapes, List.mem_cons, List.not_mem_nil, or_false] at hs
        rcases hs with rfl | rfl <;> decide
      simp +decide [template, Sql.words, Sql.named, Sql.boundText, Sql.value, Template.number, hn, hw]
  | covers field literal =>
      have hn : IsNameOf keys field := ⟨field, h, .inl rfl⟩
      simp +decide [template, Sql.words, Sql.named, Sql.boundText, Sql.value, Template.number, hn]
  | matchesText search =>
      have hd : Template.WellFormed (IsNameOf keys) (IsStepOf keys) search.document :=
        TextSearch.document_wellFormed h
      have hq : Template.WellFormed (IsNameOf keys) (IsStepOf keys) search.query :=
        TextSearch.query_wellFormed search
      simp +decide [template, Sql.words, Template.number, Template.number_append, hd _, hq _]
  | isWithin near meters ordered =>
      have hd : Template.WellFormed (IsNameOf keys) (IsStepOf keys) near.distance :=
        Near.distance_wellFormed h
      simp +decide [template, Sql.words, Sql.boundDouble, Sql.value, Template.number,
        Template.number_append, hd _]
  | hasDistance near =>
      have hd : Template.WellFormed (IsNameOf keys) (IsStepOf keys) near.distance :=
        Near.distance_wellFormed h
      simp +decide [template, Sql.words, Template.number, Template.number_append, hd _]
  | _ =>
      simp +decide [template, Sql.words, Sql.value, Sql.boundText, Sql.boundList, Sql.boundPoint,
        Sql.boundDouble, Template.number, Template.number_append, hx h, hvs]

theorem again_not_mem_template (t : Test) : .again ∉ t.template := by
  have hx : ∀ x : Operand, .again ∉ x.template := Operand.again_not_mem_template
  have hvs : ∀ vs, .again ∉ Sql.listed vs := fun vs =>
    (Template.Clean.listed vs : Template.Clean (fun _ => True) (fun _ => True) _).2
  cases t with
  | constant b => cases b <;> simp [template, Sql.words]
  | inEmpty b => cases b <;> simp [template, Sql.words]
  | _ =>
      simp [template, Sql.words, Sql.named, Sql.value, Sql.boundText, Sql.boundList, Sql.boundPoint,
        Sql.boundDouble, TextSearch.document, TextSearch.query, TextSearch.configuration,
        Near.distance, hx, hvs]

theorem template_clean {t : Test} (h : t.IsOver keys) :
    Template.Clean (IsNameOf keys) (IsStepOf keys) t.template :=
  ⟨template_wellFormed h, again_not_mem_template t⟩

end Test

end

/-! ## Conditions -/

namespace Condition

variable {keys : String → Prop}

/-- A member of a group, where the empty conjunction is written as a constant. -/
theorem member_clean {names literals : String → Prop} (cs : List Condition) :
    Template.Clean names literals (conjunction cs) →
      Template.Clean names literals
        (match cs with
          | [] => Sql.words "TRUE"
          | _ :: _ => conjunction cs) := by
  intro h
  cases cs with
  | nil => exact .words (by decide)
  | cons c cs => exact h

mutual

theorem template_clean (c : Condition) (h : ∀ t ∈ c.tests, t.IsOver keys) :
    Template.Clean (IsNameOf keys) (IsStepOf keys) c.template := by
  match c with
  | .test t =>
      rw [template]
      exact Test.template_clean (h t (by simp))
  | .negate c =>
      rw [template]
      exact .words_append (by decide) (template_clean c h)
  | .anyOf alternatives =>
      rw [template]
      exact .enclose (by decide) (by decide) (by decide)
        (templates_clean (by decide) (by decide) alternatives h)
  | .allOf parts =>
      rw [template]
      exact .enclose (by decide) (by decide) (by decide)
        (templates_clean (by decide) (by decide) parts h)

theorem conjunction_clean (cs : List Condition) (h : ∀ t ∈ testsOfAll cs, t.IsOver keys) :
    Template.Clean (IsNameOf keys) (IsStepOf keys) (conjunction cs) := by
  match cs with
  | [] => exact .nil
  | [c] =>
      rw [conjunction]
      exact template_clean c (by simpa using h)
  | c :: d :: cs =>
      rw [conjunction]
      rw [testsOfAll_cons, List.forall_mem_append] at h
      exact .separate (by decide) (by decide) (template_clean c h.1) (conjunction_clean (d :: cs) h.2)

theorem templates_clean {sep : String} (hsep : IsPlain sep) (hapart : StartsApart sep)
    (css : List (List Condition)) (h : ∀ t ∈ testsOfMembers css, t.IsOver keys) :
    Template.Clean (IsNameOf keys) (IsStepOf keys) (templates sep css) := by
  match css with
  | [] => exact .nil
  | [cs] =>
      rw [templates.eq_def]
      exact member_clean cs (conjunction_clean cs (by simpa using h))
  | cs :: ds :: rest =>
      rw [templates.eq_def]
      rw [testsOfMembers_cons, List.forall_mem_append] at h
      exact .separate hsep hapart (member_clean cs (conjunction_clean cs h.1))
        (templates_clean hsep hapart (ds :: rest) h.2)

end

end Condition

/-! ## Text at least -/

/-- A template that shows something, whatever the values and the names. -/
def HasWords (t : Template) : Prop := ∃ s, s ≠ "" ∧ Part.text s ∈ t

@[simp] theorem hasWords_append (s t : Template) : HasWords (s ++ t) ↔ HasWords s ∨ HasWords t := by
  simp only [HasWords, List.mem_append, and_or_left, exists_or]

@[simp] theorem hasWords_words (s : String) : HasWords (Sql.words s) ↔ s ≠ "" := by
  simp [HasWords, Sql.words]

theorem HasWords.render_ne {t : Template} (h : HasWords t) (next : Nat) :
    Sql.render (t.number next) ≠ "" := by
  obtain ⟨s, hs, ht⟩ := h
  have hmem : Sql.Token.text s ∈ t.number next := by
    induction t generalizing next with
    | nil => cases ht
    | cons part rest ih =>
        rcases List.mem_cons.mp ht with rfl | hrest
        · exact .head _
        · cases part <;> exact .tail _ (ih _ hrest)
  intro he
  rw [Sql.render, ← String.toList_inj, String.toList_ofList, String.toList_empty,
    List.flatMap_eq_nil_iff] at he
  exact hs (String.toList_eq_nil_iff.mp (he _ hmem))

theorem Test.template_hasWords (t : Test) : HasWords t.template := by
  cases t with
  | constant b => cases b <;> simp [template]
  | inEmpty b => cases b <;> simp [template]
  | compares x c v => cases c <;> simp [template, Comparison.sql]
  | matchesPattern x ignoreCase pattern => cases ignoreCase <;> simp [template]
  | isWithin near meters ordered => simp [template]
  | _ => simp [template]

namespace Condition

theorem template_hasWords (c : Condition) : HasWords c.template := by
  cases c with
  | test t =>
      rw [template]
      exact t.template_hasWords
  | _ => simp [template]

theorem conjunction_hasWords {cs : List Condition} (h : cs ≠ []) : HasWords (conjunction cs) := by
  match cs with
  | [] => exact absurd rfl h
  | [c] => exact c.template_hasWords
  | c :: d :: cs => simp [conjunction]

theorem render_conjunction_eq {cs : List Condition} (next : Nat) :
    Sql.render ((conjunction cs).number next) = "" ↔ cs = [] := by
  cases cs with
  | nil => exact ⟨fun _ => rfl, fun _ => rfl⟩
  | cons c cs =>
      have h := (conjunction_hasWords (List.cons_ne_nil c cs)).render_ne next
      exact ⟨fun he => absurd he h, fun he => absurd he (List.cons_ne_nil c cs)⟩

end Condition

end Docstore.Query
