import Docstore.Proofs.Query.Entries

/-!
# What conditions show

The SQL of conditions, the orders and the search that they ask for depend on the values that are bound
in no way but by their number.
-/

namespace Docstore

/-! ## Templates without their values -/

namespace Sql.Template

/-- A template with nothing in the places of its values. -/
def blank (t : Template) : Template :=
  t.map fun
    | .bind _ => .bind .null
    | part => part

@[simp] theorem blank_append (s t : Template) : blank (s ++ t) = blank s ++ blank t :=
  List.map_append

@[simp] theorem blank_words (s : String) : blank (words s) = words s := rfl

@[simp] theorem blank_value (v : Value) : blank (value v) = value .null := rfl

theorem number_blank (t : Template) (next : Nat) : number next (blank t) = number next t := by
  induction t generalizing next with
  | nil => rfl
  | cons part rest ih =>
      cases part with
      | bind v => exact congrArg (List.cons _) (ih (next + 1))
      | _ => exact congrArg (List.cons _) (ih next)

theorem blank_join (sep : String) (ts : List Template) :
    blank (join sep ts) = join sep (ts.map blank) := by
  match ts with
  | [] => rfl
  | [t] => rfl
  | t :: u :: ts =>
      have ih := blank_join sep (u :: ts)
      simp only [join, blank_append, blank_words, ih, List.map_cons]

@[simp] theorem blank_listed {α : Type} (f : α → Value) (xs : List α) :
    blank (listed (xs.map f)) = listed (xs.map fun _ => .null) := by
  simp [listed, blank_join, Function.comp_def]

end Sql.Template

namespace Query

open Docstore.Sql (Template)

/-! ## Outlines -/

/-- What a test asks of a statement, and the number of values it binds. -/
def Test.trace (t : Test) : Nat × Option Near × Option TextSearch :=
  (t.template.values.length, t.near?, t.search?)

namespace Condition

/-- All of a condition but the values it binds. -/
def outline (c : Condition) : Template × List (Nat × Option Near × Option TextSearch) :=
  (c.template.blank, c.tests.map Test.trace)

theorem nears_eq_of_trace {ts us : List Test} (h : ts.map Test.trace = us.map Test.trace)
    (bound : Nat) : nears bound ts = nears bound us := by
  induction ts generalizing us bound with
  | nil =>
      cases us with
      | nil => rfl
      | cons u us => cases h
  | cons t ts ih =>
      cases us with
      | nil => cases h
      | cons u us =>
          obtain ⟨ht, hts⟩ := List.cons.inj h
          simp only [Test.trace, Prod.mk.injEq] at ht
          rw [nears, nears, ht.1, ht.2.1, ih hts]

theorem search?_eq (cs : List Condition) :
    search? cs = (((testsOfAll cs).map Test.trace).filterMap fun p => p.2.2).getLast? := by
  rw [search?, List.filterMap_map]
  rfl

theorem traces_testsOfAll (cs : List Condition) :
    (testsOfAll cs).map Test.trace = (cs.map outline).flatMap Prod.snd := by
  induction cs with
  | nil => rfl
  | cons c cs ih => rw [testsOfAll_cons, List.map_append, ih, List.map_cons, List.flatMap_cons, outline]

theorem blank_conjunction (cs : List Condition) :
    (conjunction cs).blank = Template.join " AND " ((cs.map outline).map Prod.fst) := by
  rw [conjunction_eq_join, Template.blank_join, List.map_map, List.map_map]
  rfl

/-- Conditions of one outline give the same predicate, whatever they bind. -/
theorem number_eq_of_outline {cs ds : List Condition} (h : cs.map outline = ds.map outline)
    (first : Nat) : Predicate.number first cs = Predicate.number first ds := by
  have htests : (testsOfAll cs).map Test.trace = (testsOfAll ds).map Test.trace := by
    rw [traces_testsOfAll, traces_testsOfAll, h]
  have hsql : (conjunction cs).number first = (conjunction ds).number first := by
    rw [← Template.number_blank, blank_conjunction, h, ← blank_conjunction, Template.number_blank]
  rw [Predicate.number, Predicate.number, hsql, orders, orders, nears_eq_of_trace htests,
    search?_eq, search?_eq, htests]

/-! ## Outlines of groups -/

def blankMember : List (Template × List (Nat × Option Near × Option TextSearch)) → Template
  | [] => Sql.words "TRUE"
  | os => Template.join " AND " (os.map Prod.fst)

theorem blank_member (cs : List Condition) : (member cs).blank = blankMember (cs.map outline) := by
  cases cs with
  | nil => rfl
  | cons c cs => exact blank_conjunction (c :: cs)

variable {css dss : List (List Condition)}

theorem blank_templates_eq (h : css.map (List.map outline) = dss.map (List.map outline))
    (sep : String) : (templates sep css).blank = (templates sep dss).blank := by
  have hmember (css : List (List Condition)) :
      (css.map member).map Template.blank = (css.map (List.map outline)).map blankMember := by
    simp only [List.map_map, Function.comp_def, blank_member]
  rw [templates_eq_join, templates_eq_join, Template.blank_join, Template.blank_join, hmember, hmember, h]

theorem traces_testsOfMembers (css : List (List Condition)) :
    (testsOfMembers css).map Test.trace =
      (css.map (List.map outline)).flatMap fun os => os.flatMap Prod.snd := by
  induction css with
  | nil => rfl
  | cons cs css ih =>
      rw [testsOfMembers_cons, List.map_append, ih, traces_testsOfAll, List.map_cons, List.flatMap_cons]

theorem outline_negate {c d : Condition} (h : outline c = outline d) :
    outline (negate c) = outline (negate d) := by
  simp only [outline, Prod.mk.injEq] at h
  simp only [outline, template, tests_negate, Template.blank_append, h]

theorem outline_anyOf (h : css.map (List.map outline) = dss.map (List.map outline)) :
    outline (anyOf css) = outline (anyOf dss) := by
  simp only [outline, template, tests_anyOf, Template.blank_append, blank_templates_eq h,
    traces_testsOfMembers, h]

theorem outline_allOf (h : css.map (List.map outline) = dss.map (List.map outline)) :
    outline (allOf css) = outline (allOf dss) := by
  simp only [outline, template, tests_allOf, Template.blank_append, blank_templates_eq h,
    traces_testsOfMembers, h]

theorem outline_combine (h : css.map (List.map outline) = dss.map (List.map outline)) (op : String) :
    outline (combine op css) = outline (combine op dss) := by
  cases css with
  | nil =>
      cases dss with
      | nil => rfl
      | cons ds dss => cases h
  | cons cs css =>
      cases dss with
      | nil => cases h
      | cons ds dss =>
          simp only [combine]
          split
          · exact outline_allOf h
          · split
            · exact outline_negate (outline_anyOf h)
            · exact outline_anyOf h

end Condition

end Query

end Docstore
