import Docstore.Proofs.Query.Structure
import Docstore.Proofs.Sql.Truth

/-!
# What predicates say of rows

A predicate is read as three-valued SQL, with its values filled in. What its tests say of a row is up to the
engine, by the rules that hold for nulls and empty lists. Main statement: the text of a predicate says what the
conditions of its query say (`predicate_truth`).
-/

namespace Docstore.Query

open Docstore.Sql (Bindings Fragment Item Lexeme Template Truth read render words)
open Docstore.Sql.Template (Atomic Balanced Reads Solid Whole)

/-! ## Rows -/

def Operand.items (x : Operand) : List Item := x.template.items

/-- What an engine says of one row: which expressions are null, which documents are lists, and what holds of
texts without connectives. A comparison of a null is unknown, any other one is not. -/
structure Row where
  null : List Item → Bool
  isList : List Item → Bool
  answer : List Item → Truth
  text_null (key : String) : null (Operand.json key).items → null (Operand.text key).items
  cast_null (key type : String) : null (Operand.text key).items → null (Operand.cast key type).items
  list_null (field : String) : null (Operand.list field true).items = null (Operand.column field).items
  isList_not_null (key : String) : isList (Operand.json key).items → null (Operand.json key).items = false
  truth_true : answer (Item.text "TRUE") = .yes
  truth_false : answer (Item.text "FALSE") = .no
  one_equals_one : answer (Item.text "1 = 1") = .yes
  one_equals_two : answer (Item.text "1 = 2") = .no
  isNull (x : Operand) : answer (x.items ++ Item.text " IS NULL") = .ofBool (null x.items)
  isNotNull (x : Operand) : answer (x.items ++ Item.text " IS NOT NULL") = .ofBool (!null x.items)
  isIn_unknown (field : String) (vs : List Value) (hvs : vs ≠ []) (hnull : .null ∉ vs) :
    answer (.name field :: Item.text " IN (" ++ Item.list vs ++ Item.text ")") = .unknown ↔
      null [.name field]
  isNotIn (field : String) (vs : List Value) :
    answer (.name field :: Item.text " NOT IN (" ++ Item.list vs ++ Item.text ")") =
      (answer (.name field :: Item.text " IN (" ++ Item.list vs ++ Item.text ")")).not
  overlaps_unknown (field : String) (vs : List Value) :
    answer (.name field :: Item.text " && ARRAY[" ++ Item.list vs ++ Item.text "]::text[]") = .unknown ↔
      null [.name field]
  arrayContains_unknown (x : Operand) (items : List Json) :
    answer (Item.text "array_contains(" ++ x.items ++ Item.text ", " ++
      .value (.json (.array items)) :: Item.text ")") = .unknown ↔ null x.items
  contains_unknown (key : String) (items : List Json) :
    answer (Item.text "(" ++ (Operand.json key).items ++ Item.text ")::jsonb @> " ++
      .value (.json (.array items)) :: Item.text "::jsonb") = .unknown ↔ null (Operand.json key).items
  contains_nothing (key : String) : isList (Operand.json key).items →
    answer (Item.text "(" ++ (Operand.json key).items ++ Item.text ")::jsonb @> " ++
      .value (.json (.array [])) :: Item.text "::jsonb") = .yes

/-- What is said of a text, by what it ends with, where every expression is null, or none is and every
document is a list. -/
def uniformAnswer (present : Bool) (text : List Item) : List Item → Truth
  | .char 'L' :: .char 'L' :: .char 'U' :: .char 'N' :: .char ' ' :: .char 'S' :: _ => .ofBool !present
  | .char 'L' :: .char 'L' :: .char 'U' :: .char 'N' :: .char ' ' :: .char 'T' :: _ => .ofBool present
  | [.char 'E', .char 'U', .char 'R', .char 'T'] => .yes
  | [.char 'E', .char 'S', .char 'L', .char 'A', .char 'F'] => .no
  | [.char '1', .char ' ', .char '=', .char ' ', .char '1'] => .yes
  | [.char '2', .char ' ', .char '=', .char ' ', .char '1'] => .no
  | _ =>
    if present then
      match text with
      | .name _ :: .char ' ' :: .char 'N' :: _ => .no
      | _ => .yes
    else .unknown

/-- A row of nulls alone, or of lists alone. -/
def Row.uniform (present : Bool) : Row where
  null _ := !present
  isList _ := present
  answer text := uniformAnswer present text text.reverse
  text_null _ h := h
  cast_null _ _ h := h
  list_null _ := rfl
  isList_not_null _ h := by rw [h]; rfl
  truth_true := rfl
  truth_false := rfl
  one_equals_one := rfl
  one_equals_two := rfl
  isNull x := by rw [Item.reverse_append_text]; rfl
  isNotNull x := by rw [Item.reverse_append_text]; cases present <;> rfl
  isIn_unknown field vs _ _ := by
    rw [Item.reverse_append_text]
    cases present with
    | false => exact iff_of_true rfl rfl
    | true => exact iff_of_false Truth.noConfusion Bool.noConfusion
  isNotIn field vs := by
    rw [Item.reverse_append_text, Item.reverse_append_text]
    cases present <;> rfl
  overlaps_unknown field vs := by
    rw [Item.reverse_append_text]
    cases present with
    | false => exact iff_of_true rfl rfl
    | true => exact iff_of_false Truth.noConfusion Bool.noConfusion
  arrayContains_unknown x items := by
    rw [Item.reverse_append_value]
    cases present with
    | false => exact iff_of_true rfl rfl
    | true => exact iff_of_false Truth.noConfusion Bool.noConfusion
  contains_unknown key items := by
    rw [Item.reverse_append_value]
    cases present with
    | false => exact iff_of_true rfl rfl
    | true => exact iff_of_false Truth.noConfusion Bool.noConfusion
  contains_nothing key h := by
    subst h
    rw [Item.reverse_append_value]
    rfl

/-! ## The items of tests -/

namespace Test

section

variable (x : Operand) (field : String) (vs : List Value) (items : List Json)

theorem items_isNull : (Test.isNull x).template.items = x.items ++ Item.text " IS NULL" := by
  rw [Test.template, Template.items_append, Template.items_words, Operand.items]

theorem items_isNotNull : (Test.isNotNull x).template.items = x.items ++ Item.text " IS NOT NULL" := by
  rw [Test.template, Template.items_append, Template.items_words, Operand.items]

theorem items_isIn : (Test.isIn (.column field) vs).template.items =
    .name field :: Item.text " IN (" ++ Item.list vs ++ Item.text ")" := by
  rw [Test.template, Template.items_append, Template.items_append, Template.items_append,
    Template.items_words, Template.items_words, Template.items_listed]
  rfl

theorem items_isNotIn : (Test.isNotIn (.column field) vs).template.items =
    .name field :: Item.text " NOT IN (" ++ Item.list vs ++ Item.text ")" := by
  rw [Test.template, Template.items_append, Template.items_append, Template.items_append,
    Template.items_words, Template.items_words, Template.items_listed]
  rfl

theorem items_overlaps : (Test.overlaps (.column field) vs).template.items =
    .name field :: Item.text " && ARRAY[" ++ Item.list vs ++ Item.text "]::text[]" := by
  rw [Test.template, Template.items_append, Template.items_append, Template.items_append,
    Template.items_words, Template.items_words, Template.items_listed]
  rfl

theorem items_hasAny : (Test.hasAny x items).template.items =
    Item.text "array_contains(" ++ x.items ++ Item.text ", " ++
      .value (.json (.array items)) :: Item.text ")" := by
  rw [Test.template]
  simp [Template.items_append, Sql.boundList, Sql.value, Template.items, Operand.items]

theorem items_containsJson : (Test.containsJson x items).template.items =
    Item.text "(" ++ x.items ++ Item.text ")::jsonb @> " ++
      .value (.json (.array items)) :: Item.text "::jsonb" := by
  rw [Test.template]
  simp [Template.items_append, Sql.boundList, Sql.value, Template.items, Operand.items]

end

end Test

/-! ## Conditions on rows -/

namespace Condition

mutual

/-- What a condition says of a row; a group of nothing is a text like others. -/
def truth (row : Row) : Condition → Truth
  | test t => row.answer t.template.items
  | negate c => (c.truth row).not
  | anyOf [] => row.answer []
  | anyOf (cs :: css) => .any (truths row (cs :: css))
  | allOf [] => row.answer []
  | allOf (cs :: css) => .all (truths row (cs :: css))

def truthOfAll (row : Row) : List Condition → Truth
  | [] => .yes
  | c :: cs => (c.truth row).and (truthOfAll row cs)

def truths (row : Row) : List (List Condition) → List Truth
  | [] => []
  | cs :: css => truthOfAll row cs :: truths row css

end

section

variable (row : Row)

theorem truth_test (t : Test) : (test t).truth row = row.answer t.template.items := rfl

@[simp] theorem truth_negate (c : Condition) : (negate c).truth row = (c.truth row).not := rfl

theorem truth_anyOf (cs : List Condition) (css : List (List Condition)) :
    (anyOf (cs :: css)).truth row = .any (truths row (cs :: css)) := rfl

theorem truth_allOf (cs : List Condition) (css : List (List Condition)) :
    (allOf (cs :: css)).truth row = .all (truths row (cs :: css)) := rfl

theorem truthOfAll_cons (c : Condition) (cs : List Condition) :
    truthOfAll row (c :: cs) = (c.truth row).and (truthOfAll row cs) := rfl

@[simp] theorem truthOfAll_singleton (c : Condition) : truthOfAll row [c] = c.truth row :=
  Truth.and_yes _

theorem truths_cons (cs : List Condition) (css : List (List Condition)) :
    truths row (cs :: css) = truthOfAll row cs :: truths row css := rfl

theorem truthOfAll_eq (cs : List Condition) : truthOfAll row cs = .all (cs.map (truth row)) := by
  induction cs with
  | nil => rfl
  | cons c cs ih => rw [truthOfAll_cons, ih, List.map_cons, Truth.all_cons]

theorem truths_eq (css : List (List Condition)) : truths row css = css.map (truthOfAll row) := by
  induction css with
  | nil => rfl
  | cons cs css ih => rw [truths_cons, ih, List.map_cons]

@[simp] theorem truth_notGroup (c : Condition) :
    (Operator.notGroup c).truth row = (c.truth row).not := by
  rw [Operator.notGroup, truth_negate, truth_anyOf, truths_eq]
  simp

@[simp] theorem truth_anyOf_pair (c d : Condition) :
    (anyOf [[c], [d]]).truth row = (c.truth row).or (d.truth row) := by
  rw [truth_anyOf, truths_eq]
  simp

@[simp] theorem truth_allOf_pair (c d : Condition) :
    (allOf [[c], [d]]).truth row = (c.truth row).and (d.truth row) := by
  rw [truth_allOf, truths_eq]
  simp

@[simp] theorem truth_isNull (x : Operand) :
    (test (.isNull x)).truth row = .ofBool (row.null x.items) := by
  rw [truth_test, Test.items_isNull, row.isNull]

@[simp] theorem truth_isNotNull (x : Operand) :
    (test (.isNotNull x)).truth row = .ofBool (!row.null x.items) := by
  rw [truth_test, Test.items_isNotNull, row.isNotNull]

@[simp] theorem truth_inEmpty (negated : Bool) :
    (test (.inEmpty negated)).truth row = .ofBool negated := by
  cases negated
  · exact row.one_equals_two
  · exact row.one_equals_one

theorem truth_hasAny (x : Operand) (items : List Json) :
    (test (.hasAny x items)).truth row = .unknown ↔ row.null x.items = true := by
  rw [truth_test, Test.items_hasAny, row.arrayContains_unknown]

theorem truth_containsJson (key : String) (items : List Json) :
    (test (.containsJson (.json key) items)).truth row = .unknown ↔
      row.null (Operand.json key).items = true := by
  rw [truth_test, Test.items_containsJson, row.contains_unknown]

theorem truth_containsJson_nil {key : String} (h : row.isList (Operand.json key).items = true) :
    (test (.containsJson (.json key) [])).truth row = .yes := by
  rw [truth_test, Test.items_containsJson, row.contains_nothing key h]

theorem truth_isIn (field : String) {vs : List Value} (hvs : vs ≠ []) (hnull : .null ∉ vs) :
    (test (.isIn (.column field) vs)).truth row = .unknown ↔
      row.null (Operand.column field).items = true := by
  rw [truth_test, Test.items_isIn]
  exact row.isIn_unknown field vs hvs hnull

theorem truth_isNotIn (field : String) (vs : List Value) :
    (test (.isNotIn (.column field) vs)).truth row =
      ((test (.isIn (.column field) vs)).truth row).not := by
  rw [truth_test, truth_test, Test.items_isIn, Test.items_isNotIn, row.isNotIn]

theorem truth_overlaps (field : String) (vs : List Value) :
    (test (.overlaps (.column field) vs)).truth row = .unknown ↔
      row.null (Operand.column field).items = true := by
  rw [truth_test, Test.items_overlaps]
  exact row.overlaps_unknown field vs

end

end Condition

/-! ## Tests are no connectives -/

namespace Operand

theorem atomic_append (x : Operand) (t : Template) : Atomic (x.template ++ t) := by
  intro next
  cases x with
  | list name native => cases native <;> exact ⟨rfl, rfl⟩
  | _ => exact ⟨rfl, rfl⟩

end Operand

theorem Test.template_atomic (t : Test) : Atomic t.template := by
  cases t with
  | constant b | inEmpty b => cases b <;> exact fun _ => ⟨rfl, rfl⟩
  | containsJson x items =>
      intro next
      refine ⟨rfl, ?_⟩
      -- The parenthesis that opens has its partner before the cast.
      have hend : Fragment.lexemes (Template.number next (Test.containsJson x items).template) =
          .char '(' :: (Fragment.lexemes (Template.number next
            (x.template ++ words ")::jsonb @> " ++ Sql.boundList items ++ words "::json")) ++
              [.char 'b']) := by
        simp [template, words, Template.number_append, Template.number, Fragment.lexemes_append,
          Fragment.lexemes]
      rw [hend, Lexeme.inner?, if_neg]
      simp
  | isInside | covers | matchesText | isWithin | hasDistance | equalsFolded | hasAny | hasAll | hasAllLike =>
      exact fun _ => ⟨rfl, rfl⟩
  | _ =>
      simp only [template, List.append_assoc]
      exact Operand.atomic_append _ _

/-! ## Reading conditions -/

section

variable {keys : String → Prop} {row : Row}

theorem Test.template_whole {t : Test} (h : t.IsOver keys) : Whole t.template :=
  ⟨Test.template_solid h (.inr rfl), Test.template_solid h (.inl rfl)⟩

namespace Condition

theorem template_whole {c : Condition} (h : ∀ t ∈ c.tests, t.IsOver keys) : Whole c.template :=
  ⟨template_solid (.inr rfl) c h, template_solid (.inl rfl) c h⟩

theorem conjunction_reads {cs : List Condition} (hcs : cs ≠ []) (h : ∀ t ∈ testsOfAll cs, t.IsOver keys)
    (hreads : ∀ c ∈ cs, Reads row.answer c.template (c.truth row)) :
    Reads row.answer (conjunction cs) (truthOfAll row cs) := by
  rw [conjunction_eq_join, truthOfAll_eq]
  exact Reads.all hreads hcs fun c hc =>
    ⟨conjuncts_solid (.inr rfl) cs h c hc, conjuncts_solid (.inl rfl) cs h c hc⟩

/-- The conditions that a member of a group is written as. -/
def written : List Condition → List Condition
  | [] => [.test (.constant true)]
  | c :: cs => c :: cs

theorem written_ne_nil (cs : List Condition) : written cs ≠ [] := by cases cs <;> exact List.cons_ne_nil _ _

theorem member_eq (cs : List Condition) : member cs = conjunction (written cs) := by cases cs <;> rfl

theorem truthOfAll_written (row : Row) (cs : List Condition) :
    truthOfAll row (written cs) = truthOfAll row cs := by
  cases cs with
  | nil => exact (congrArg (Truth.and · .yes) row.truth_true).trans rfl
  | cons c cs => rfl

theorem written_isOver {cs : List Condition} (h : ∀ t ∈ testsOfAll cs, t.IsOver keys) :
    ∀ t ∈ testsOfAll (written cs), t.IsOver keys := by
  cases cs with
  | nil => simp [written]
  | cons c cs => exact h

theorem templates_and_eq (css : List (List Condition)) :
    templates " AND " css = conjunction (css.map written).flatten := by
  rw [templates_eq_join, conjunction_flatten (by simpa using fun cs _ => written_ne_nil cs), List.map_map]
  exact congrArg _ (List.map_congr_left fun cs _ => member_eq cs)

theorem truthOfAll_flatten_written (row : Row) (css : List (List Condition)) :
    truthOfAll row (css.map written).flatten = .all (truths row css) := by
  have hmember (cs : List Condition) : Truth.all ((written cs).map (truth row)) = truthOfAll row cs := by
    rw [← truthOfAll_eq, truthOfAll_written]
  rw [truthOfAll_eq, truths_eq, List.map_flatten, List.map_map, ← List.flatMap_def, Truth.all_flatMap]
  exact congrArg _ (List.map_congr_left fun cs _ => hmember cs)

theorem empty_group_reads : Reads row.answer (words "(" ++ [] ++ words ")") (row.answer []) := by
  intro b next _
  have houter : Lexeme.truth (fun ls => row.answer (b.items ls)) [.char '(', .char ')'] =
      Lexeme.truth (fun ls => row.answer (b.items ls)) [] :=
    Lexeme.truth_of_inner? rfl rfl rfl rfl
  exact houter.trans (Lexeme.truth_of_atom rfl rfl rfl rfl)

theorem written_reads {cs : List Condition} (h : ∀ c ∈ cs, Reads row.answer c.template (c.truth row)) :
    ∀ c ∈ written cs, Reads row.answer c.template (c.truth row) := by
  cases cs with
  | nil =>
      have hconstant : Test.IsOver (fun _ => True) (.constant true) := trivial
      rw [written, List.forall_mem_singleton]
      exact (Test.template_atomic _).reads (Test.template_whole hconstant)
        (Test.again_not_mem_template _)
  | cons c cs => exact h

theorem member_reads {cs : List Condition} (h : ∀ t ∈ testsOfAll cs, t.IsOver keys)
    (hreads : ∀ c ∈ cs, Reads row.answer c.template (c.truth row)) :
    Reads row.answer (member cs) (truthOfAll row cs) := by
  rw [member_eq, ← truthOfAll_written]
  exact conjunction_reads (written_ne_nil cs) (written_isOver h) (written_reads hreads)

theorem forall_testsOfAll_flatten {p : Test → Prop} {css : List (List Condition)}
    (h : ∀ cs ∈ css, ∀ t ∈ testsOfAll cs, p t) : ∀ t ∈ testsOfAll css.flatten, p t := by
  induction css with
  | nil => exact fun t ht => nomatch ht
  | cons cs css ih =>
      rw [List.flatten_cons, testsOfAll_append, List.forall_mem_append]
      exact ⟨h cs (.head _), ih fun ds hds => h ds (.tail _ hds)⟩

theorem conjunction_members_reads {css : List (List Condition)} (hcss : css ≠ [])
    (h : ∀ t ∈ testsOfMembers css, t.IsOver keys)
    (hreads : ∀ cs ∈ css, ∀ c ∈ cs, Reads row.answer c.template (c.truth row)) :
    Reads row.answer (templates " AND " css) (.all (truths row css)) := by
  have hne : (css.map written).flatten ≠ [] := by
    obtain ⟨cs, css, rfl⟩ := List.exists_cons_of_ne_nil hcss
    rw [List.map_cons, List.flatten_cons]
    exact List.append_ne_nil_of_left_ne_nil (written_ne_nil cs) _
  rw [templates_and_eq, ← truthOfAll_flatten_written]
  apply conjunction_reads hne
  · apply forall_testsOfAll_flatten
    exact List.forall_mem_map.mpr fun cs hcs => written_isOver (forall_testsOfAll h cs hcs)
  · intro c hc
    obtain ⟨cs, hcs, hc⟩ := List.mem_flatten.mp hc
    obtain ⟨ds, hds, rfl⟩ := List.mem_map.mp hcs
    exact written_reads (hreads ds hds) c hc

theorem members_balanced {css : List (List Condition)} (h : ∀ t ∈ testsOfMembers css, t.IsOver keys)
    {sep : String} (hsep : Balanced (words sep)) : Balanced (templates sep css) := by
  rw [templates_eq_join]
  exact Balanced.join hsep
    (List.forall_mem_map.mpr fun cs hcs => (member_solid (forall_testsOfAll h cs hcs)).balanced)

mutual

/-- The text of a condition says what the condition says. -/
theorem template_reads (c : Condition) (h : ∀ t ∈ c.tests, t.IsOver keys) :
    Reads row.answer c.template (c.truth row) := by
  have hwhole := template_whole h
  match c with
  | .test t =>
      rw [template, truth_test]
      exact t.template_atomic.reads (Test.template_whole (h t (.head _))) t.again_not_mem_template
  | .negate c =>
      rw [template] at hwhole ⊢
      exact (template_reads c h).negate hwhole
  | .anyOf [] | .allOf [] => exact empty_group_reads
  | .anyOf (cs :: css) =>
      have hconjuncts := members_read (cs :: css) h
      rw [template] at hwhole ⊢
      refine Reads.group ?_ hwhole (members_balanced h fun _ => rfl)
      rw [templates_eq_join, truth_anyOf, truths_eq]
      exact Reads.any (fun ds hds => member_reads (forall_testsOfAll h ds hds) (hconjuncts ds hds))
        (List.cons_ne_nil _ _) fun ds hds => member_solid (forall_testsOfAll h ds hds)
  | .allOf (cs :: css) =>
      have hconjuncts := members_read (cs :: css) h
      rw [template] at hwhole ⊢
      exact Reads.group (conjunction_members_reads (List.cons_ne_nil _ _) h hconjuncts) hwhole
        (members_balanced h fun _ => rfl)

theorem conjuncts_read (cs : List Condition) (h : ∀ t ∈ testsOfAll cs, t.IsOver keys) :
    ∀ c ∈ cs, Reads row.answer c.template (c.truth row) := by
  match cs with
  | [] => exact fun c hc => nomatch hc
  | c :: cs =>
      rw [testsOfAll_cons, List.forall_mem_append] at h
      exact List.forall_mem_cons.mpr ⟨template_reads c h.1, conjuncts_read cs h.2⟩

theorem members_read (css : List (List Condition)) (h : ∀ t ∈ testsOfMembers css, t.IsOver keys) :
    ∀ cs ∈ css, ∀ c ∈ cs, Reads row.answer c.template (c.truth row) := by
  match css with
  | [] => exact fun cs hcs => nomatch hcs
  | cs :: css =>
      rw [testsOfMembers_cons, List.forall_mem_append] at h
      exact List.forall_mem_cons.mpr ⟨conjuncts_read cs h.1, members_read css h.2⟩

end

end Condition

end

/-! ## Predicates on rows -/

/-- What a predicate says of a row, with the values that are bound; no predicate keeps every row. -/
def Predicate.truth (p : Predicate) (row : Row) (b : Bindings) : Truth :=
  if p.isEmpty then .yes
  else match read (render p.sql) with
    | some ls => Lexeme.truth (fun ls => row.answer (b.items ls)) ls
    | none => .unknown

theorem Predicate.truth_number {c : Context} {q : Document} {cs : List Condition}
    (h : compile c q = .ok cs) {b : Bindings} {next : Nat} (hb : b.Holds next (Condition.values cs))
    (row : Row) : (Predicate.number next cs).truth row b = Condition.truthOfAll row cs := by
  rw [Predicate.truth, Predicate.isEmpty_number]
  cases cs with
  | nil => rfl
  | cons d ds =>
      have hover := compile_only c q _ h
      have hread := ((Condition.conjunction_clean (d :: ds) hover).1 next).read_render
      have hreads : Reads row.answer (Condition.conjunction (d :: ds))
          (Condition.truthOfAll row (d :: ds)) :=
        Condition.conjunction_reads (List.cons_ne_nil d ds) hover (Condition.conjuncts_read _ hover)
      rw [List.isEmpty_cons, if_neg Bool.false_ne_true, Predicate.number, hread]
      exact hreads b next hb

/-- The text of a predicate says what the conditions of its query say. -/
theorem predicate_truth {c : Context} {q : Document} {b b' : Bindings} {p : Predicate}
    (h : predicate c q b = (.ok p, b')) :
    ∃ cs, compile c q = .ok cs ∧ ∀ row : Row, p.truth row b' = Condition.truthOfAll row cs := by
  obtain ⟨cs, -, hcs, rfl, rfl⟩ := predicate_ok h
  exact ⟨cs, hcs, Predicate.truth_number hcs (Bindings.holds_append_self b _)⟩

end Docstore.Query
