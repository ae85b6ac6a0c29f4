import Docstore.Proofs.Query.Entries
import Docstore.Proofs.Query.KeySafety
import Docstore.Proofs.Sql.Nesting

/-!
# The structure of predicates

A predicate comes apart into the clauses of its query and a group into the predicates of its members, because
nothing that a condition writes outside parentheses reads `AND` or `OR` between blanks. Main statement:
`structure_survives`.
-/

namespace Docstore.Query

open Docstore.Sql (Bindings Fragment IsBalanced IsWord Spot Template joinFragments render splitOutside words)
open Docstore.Sql.Template (Solid scan scan_append)

/-! ## Operands -/

/-- What predicates come apart at, between blanks. -/
def IsConnective (word : List Char) : Prop := word = ['A', 'N', 'D'] ∨ word = ['O', 'R']

theorem run_word {word : List Char} {cs : List Char} (h : IsWord cs) :
    Spot.run word (.top []) (cs.map .char) = some (.top []) := by
  induction cs with
  | nil => rfl
  | cons c cs ih =>
      obtain ⟨hc, hcs⟩ := List.forall_mem_cons.mp h
      have hstep : Spot.step word (.top []) (.char c) = some (.top []) := by
        simp [Spot.step, Spot.readChar, hc]
      rw [List.map_cons, Spot.run, hstep]
      exact ih hcs

theorem isWord_of_isIndex {s : String} (h : Operand.isIndex s = true) : IsWord s.toList := by
  intro c hc
  simp only [Operand.isIndex, ne_eq, Bool.and_eq_true, List.all_eq_true] at h
  have hd := h.2 c hc
  refine ⟨?_, ?_, ?_⟩ <;> rintro rfl <;> simp at hd

namespace Operand

variable {word : List Char}

theorem scan_step (c : String) (t : Template) :
    scan word (.top []) (step c :: t) = scan word (.top []) t := by
  unfold step
  split
  · rename_i h
    rw [scan, run_word (isWord_of_isIndex h)]
    rfl
  · rfl

theorem scan_steps {last : String} (hlast : IsWord last.toList) (cs : List String) :
    scan word (.top []) (steps last cs) = some (.top []) := by
  match cs with
  | [] => rfl
  | [c] =>
      rw [steps, scan, run_word hlast]
      exact scan_step c []
  | c :: d :: cs =>
      have ih := scan_steps hlast (d :: cs)
      have harrow : IsWord "->".toList := by decide
      calc scan word (.top []) (steps last (c :: d :: cs))
          = scan word (.top []) (step c :: steps last (d :: cs)) := by
            rw [steps.eq_def, scan, run_word harrow]
            rfl
        _ = some (.top []) := (scan_step c _).trans ih

theorem path_solid {last : String} (hlast : IsWord last.toList) (key : String) :
    Solid word (path last key) :=
  ⟨scan_steps hlast _, scan_steps hlast _⟩

theorem template_solid {keys : String → Prop} {x : Operand} (h : x.IsOver keys)
    (hword : IsConnective word) : Solid word x.template := by
  have htext (key : String) : Solid word (path "->>" key) := path_solid (by decide) key
  cases x with
  | column name => exact ⟨rfl, rfl⟩
  | text key => exact htext key
  | json key => exact path_solid (by decide) key
  | cast key type =>
      have hm := h.2
      simp only [castTypes, List.mem_cons, List.not_mem_nil, or_false] at hm
      rw [template, List.append_assoc]
      apply Solid.enclose (d := 1)
      · rcases hword with rfl | rfl <;> rfl
      · rcases hword with rfl | rfl <;> rfl
      · exact (htext key).deep 1
      · rcases hword with rfl | rfl <;> rcases hm with rfl | rfl <;> rfl
  | list name native =>
      cases native with
      | false => exact ⟨rfl, rfl⟩
      | true => rcases hword with rfl | rfl <;> exact ⟨rfl, rfl⟩

end Operand

/-! ## Tests -/

section

variable {keys : String → Prop} {word : List Char}

theorem scan_listed_cons (hword : IsConnective word) (missing : List Char) (v : Value)
    (vs : List Value) : scan word (.top missing) (Sql.listed (v :: vs)) = some (.top []) := by
  induction vs generalizing v missing with
  | nil => rfl
  | cons w vs ih =>
      have hfirst : scan word (.top missing) (Sql.value v ++ words ", ") =
          some (.top (Spot.behindBlank word)) := by
        rcases hword with rfl | rfl <;> rfl
      calc scan word (.top missing) (Sql.listed (v :: w :: vs))
          = scan word (.top missing) (Sql.value v ++ words ", " ++ Sql.listed (w :: vs)) := rfl
        _ = some (.top []) := by
          rw [scan_append, hfirst]
          exact ih _ w

theorem scan_listed (hword : IsConnective word) (vs : List Value) :
    scan word (.top []) (Sql.listed vs) = some (.top []) := by
  cases vs with
  | nil => rfl
  | cons v vs => exact scan_listed_cons hword [] v vs

theorem list_solid {x : Operand} (hx : Solid word x.template) {s : Spot} {before after : String}
    {vs : List Value} (hbefore : scan word (.top []) (words before) = some s)
    (hvs : scan word s (Sql.listed vs) = some s)
    (hafter : scan word s (words after) = some (.top [])) :
    Solid word (x.template ++ (words before ++ (Sql.listed vs ++ words after))) := by
  apply hx.followed
  rw [scan_append, hbefore, Option.bind_some, scan_append, hvs]
  exact hafter

theorem TextSearch.document_solid (search : TextSearch) (hword : IsConnective word) :
    Solid word search.document := by
  have hover : (Operand.text search.field).IsOver fun _ => True := trivial
  have hx := Operand.template_solid hover hword
  rw [document, List.append_assoc]
  apply Solid.enclose (d := 0)
  · rcases hword with rfl | rfl <;> rfl
  · rcases hword with rfl | rfl <;> rfl
  · exact hx.deep 0
  · rcases hword with rfl | rfl <;> rfl

theorem Test.template_solid {t : Test} (h : t.IsOver keys) (hword : IsConnective word) :
    Solid word t.template := by
  have hx {x : Operand} (h : x.IsOver keys) : Solid word x.template :=
    Operand.template_solid h hword
  have hlisted (d : Nat) (vs : List Value) : scan word (.deep d) (Sql.listed vs) = some (.deep d) :=
    Template.scan_within (scan_listed hword vs) d
  cases t with
  | constant b => rcases hword with rfl | rfl <;> cases b <;> exact ⟨rfl, rfl⟩
  | inEmpty b => rcases hword with rfl | rfl <;> cases b <;> exact ⟨rfl, rfl⟩
  | compares x c v =>
      cases c <;> simp only [template, List.append_assoc] <;>
        exact (hx h).followed (by rcases hword with rfl | rfl <;> rfl)
  | matchesPattern x ignoreCase pattern =>
      cases ignoreCase <;> simp only [template, List.append_assoc] <;>
        exact (hx h).followed (by rcases hword with rfl | rfl <;> rfl)
  | isIn x vs | isNotIn x vs =>
      simp only [template, List.append_assoc]
      apply list_solid (hx h) (s := .deep 0)
      · rcases hword with rfl | rfl <;> rfl
      · exact hlisted 0 vs
      · rcases hword with rfl | rfl <;> rfl
  | overlaps x vs =>
      simp only [template, List.append_assoc]
      apply list_solid (hx h) (s := .top [])
      · rcases hword with rfl | rfl <;> rfl
      · exact scan_listed hword vs
      · rcases hword with rfl | rfl <;> rfl
  | isInside field shape literal =>
      have hs := h.2
      simp only [areaShapes, List.mem_cons, List.not_mem_nil, or_false] at hs
      rcases hword with rfl | rfl <;> rcases hs with rfl | rfl <;> exact ⟨rfl, rfl⟩
  | covers field literal | isWithin near meters ordered | hasDistance near =>
      rcases hword with rfl | rfl <;> exact ⟨rfl, rfl⟩
  | matchesText search =>
      rw [template, List.append_assoc]
      exact (search.document_solid hword).followed (by rcases hword with rfl | rfl <;> rfl)
  | equalsFolded x v | containsJson x vs | hasAny x vs | hasAll x vs | hasAllLike x vs =>
      simp only [template, List.append_assoc]
      apply Solid.enclose (d := 0)
      · rcases hword with rfl | rfl <;> rfl
      · rcases hword with rfl | rfl <;> rfl
      · exact (hx h).deep 0
      · rcases hword with rfl | rfl <;> rfl
  | _ =>
      simp only [template, List.append_assoc]
      exact (hx h).followed (by rcases hword with rfl | rfl <;> rfl)

/-! ## Conditions -/

namespace Condition

theorem scan_join {sep : String} (hsep : scan word (.deep 0) (words sep) = some (.deep 0))
    {ts : List Template} (h : ∀ t ∈ ts, scan word (.deep 0) t = some (.deep 0)) :
    scan word (.deep 0) (Template.join sep ts) = some (.deep 0) := by
  match ts with
  | [] => rfl
  | [t] => exact h t (.head _)
  | t :: u :: ts =>
      have ih := scan_join hsep fun v hv => h v (.tail t hv)
      rw [Template.join_cons_cons, scan_append, scan_append, h t (.head _), Option.bind_some, hsep]
      exact ih

mutual

theorem template_solid (hword : IsConnective word) (c : Condition)
    (h : ∀ t ∈ c.tests, t.IsOver keys) : Solid word c.template := by
  match c with
  | .test t =>
      rw [template]
      exact Test.template_solid (h t (by simp)) hword
  | .negate c =>
      have hc := template_solid hword c h
      have hnot : scan word (.top []) (words "NOT ") = some (.top (Spot.behindBlank word)) ∧
          scan word (.top (Spot.behindBlank word)) (words "NOT ") =
            some (.top (Spot.behindBlank word)) := by
        rcases hword with rfl | rfl <;> exact ⟨rfl, rfl⟩
      rw [template]
      constructor
      · rw [scan_append, hnot.1]
        exact hc.behindBlank
      · rw [scan_append, hnot.2]
        exact hc.behindBlank
  | .anyOf alternatives =>
      rw [template, templates_eq_join, List.append_assoc]
      apply Solid.enclose (d := 0)
      · rcases hword with rfl | rfl <;> rfl
      · rcases hword with rfl | rfl <;> rfl
      · exact scan_join (by rcases hword with rfl | rfl <;> rfl) (members_scan hword alternatives h)
      · rcases hword with rfl | rfl <;> rfl
  | .allOf parts =>
      rw [template, templates_eq_join, List.append_assoc]
      apply Solid.enclose (d := 0)
      · rcases hword with rfl | rfl <;> rfl
      · rcases hword with rfl | rfl <;> rfl
      · exact scan_join (by rcases hword with rfl | rfl <;> rfl) (members_scan hword parts h)
      · rcases hword with rfl | rfl <;> rfl

theorem conjuncts_solid (hword : IsConnective word) (cs : List Condition)
    (h : ∀ t ∈ testsOfAll cs, t.IsOver keys) : ∀ c ∈ cs, Solid word c.template := by
  match cs with
  | [] => exact fun c hc => nomatch hc
  | c :: cs =>
      rw [testsOfAll_cons, List.forall_mem_append] at h
      exact List.forall_mem_cons.mpr
        ⟨template_solid hword c h.1, conjuncts_solid hword cs h.2⟩

theorem members_scan (hword : IsConnective word) (css : List (List Condition))
    (h : ∀ t ∈ testsOfMembers css, t.IsOver keys) :
    ∀ t ∈ css.map member, scan word (.deep 0) t = some (.deep 0) := by
  match css with
  | [] => exact fun t ht => nomatch ht
  | cs :: css =>
      rw [testsOfMembers_cons, List.forall_mem_append] at h
      have hcs := conjuncts_solid hword cs h.1
      refine List.forall_mem_cons.mpr ⟨?_, members_scan hword css h.2⟩
      cases cs with
      | nil => rcases hword with rfl | rfl <;> rfl
      | cons c cs =>
          rw [member, conjunction_eq_join]
          apply scan_join
          · rcases hword with rfl | rfl <;> rfl
          · intro t ht
            obtain ⟨d, hd, rfl⟩ := List.mem_map.mp ht
            exact (hcs d hd).deep 0

end

/-- A conjunction shows no `OR` of its own. -/
theorem conjunction_solid {cs : List Condition} (hcs : cs ≠ []) (h : ∀ t ∈ testsOfAll cs, t.IsOver keys) :
    Solid ['O', 'R'] (conjunction cs) := by
  rw [conjunction_eq_join]
  exact Solid.join rfl (by simpa using hcs) (List.forall_mem_map.mpr (conjuncts_solid (.inr rfl) cs h))

theorem member_solid {cs : List Condition} (h : ∀ t ∈ testsOfAll cs, t.IsOver keys) :
    Solid ['O', 'R'] (member cs) := by
  cases cs with
  | nil => exact ⟨rfl, rfl⟩
  | cons c cs => exact conjunction_solid (List.cons_ne_nil c cs) h

theorem clauses_pass {cs : List Condition} (h : ∀ t ∈ testsOfAll cs, t.IsOver keys) (b : Bindings) :
    ∀ f ∈ clauses b cs, f.Passes ['A', 'N', 'D'] := by
  intro f hf
  obtain ⟨t, ht, next, rfl⟩ := Bindings.mem_writeAll hf
  obtain ⟨c, hc, rfl⟩ := List.mem_map.mp ht
  exact (conjuncts_solid (.inl rfl) cs h c hc).passes next

end Condition

end

/-! ## Predicates -/

def Predicate.memberText (p : Predicate) : String := if p.isEmpty then "TRUE" else render p.sql

/-- The clauses that a predicate comes apart into. -/
def Predicate.ComesApart (p : Predicate) (clauses : List String) : Prop :=
  if p.isEmpty then clauses = [] else splitOutside " AND " (render p.sql) = some clauses

/-- A group of texts as a combining key says. -/
def IsGroup (key : String) (texts : List String) (clause : String) : Prop :=
  ∃ body, clause = (if key = "$nor" then "NOT (" else "(") ++ body ++ ")" ∧
    if key = "$and" then body = " AND ".intercalate texts else splitOutside " OR " body = some texts

/-! ## Groups -/

theorem Predicate.isEmpty_number (first : Nat) (cs : List Condition) :
    (Predicate.number first cs).isEmpty = cs.isEmpty := by
  cases cs with
  | nil => rfl
  | cons c cs =>
      rw [List.isEmpty_cons, Predicate.isEmpty, List.isEmpty_eq_false_iff]
      intro h
      have hempty : render (Predicate.number first (c :: cs)).sql = "" := by
        rw [h]
        rfl
      exact List.cons_ne_nil c cs ((Condition.render_conjunction_eq first).mp hempty)

theorem Condition.values_member (cs : List Condition) : (member cs).values = values cs := by
  cases cs <;> rfl

theorem memberText_number (first : Nat) (cs : List Condition) :
    (Predicate.number first cs).memberText = render ((Condition.member cs).number first) := by
  rw [Predicate.memberText, Predicate.isEmpty_number]
  cases cs <;> rfl

theorem texts_of_members (b : Bindings) (css : List (List Condition)) :
    (b.writeAll (css.map Condition.member)).1.map render =
      (numbered b css).map Predicate.memberText := by
  induction css generalizing b with
  | nil => rfl
  | cons cs css ih =>
      rw [List.map_cons, Bindings.writeAll_cons, List.map_cons, Condition.values_member, ih, numbered,
        List.map_cons, memberText_number]

theorem Condition.forall_testsOfAll {p : Test → Prop} {css : List (List Condition)}
    (h : ∀ t ∈ testsOfMembers css, p t) : ∀ cs ∈ css, ∀ t ∈ testsOfAll cs, p t := by
  induction css with
  | nil => exact fun cs hcs => nomatch hcs
  | cons cs css ih =>
      rw [testsOfMembers_cons, List.forall_mem_append] at h
      exact List.forall_mem_cons.mpr ⟨h.1, ih h.2⟩

section

variable {keys : String → Prop} {css : List (List Condition)}
  (h : ∀ t ∈ Condition.testsOfMembers css, t.IsOver keys)

include h

theorem members_pass (b : Bindings) :
    ∀ f ∈ (b.writeAll (css.map Condition.member)).1, f.Passes ['O', 'R'] := by
  intro f hf
  obtain ⟨t, ht, next, rfl⟩ := Bindings.mem_writeAll hf
  obtain ⟨cs, hcs, rfl⟩ := List.mem_map.mp ht
  exact (Condition.member_solid (Condition.forall_testsOfAll h cs hcs)).passes next

theorem splitOutside_templates (hcss : css ≠ []) (b : Bindings) :
    splitOutside " OR " (render ((Condition.templates " OR " css).number b.next)) =
      some ((numbered b css).map Predicate.memberText) := by
  have hplain : Sql.IsPlain " OR " := by decide
  have hapart : Sql.StartsApart " OR " := by decide
  have hwf := (Condition.templates_clean hplain hapart css h).1 b.next
  rw [Condition.templates_eq_join, ← Bindings.joinFragments_writeAll] at hwf ⊢
  rw [← texts_of_members]
  refine Fragment.splitOutside_join (by decide) rfl ?_ (members_pass h b) hwf
  obtain ⟨cs, css, rfl⟩ := List.exists_cons_of_ne_nil hcss
  rw [List.map_cons, Bindings.writeAll_cons]
  exact List.cons_ne_nil _ _

end

theorem render_templates (sep : String) (css : List (List Condition)) (b : Bindings) :
    render ((Condition.templates sep css).number b.next) =
      sep.intercalate ((numbered b css).map Predicate.memberText) := by
  rw [Condition.templates_eq_join, ← Bindings.joinFragments_writeAll, Fragment.render_joinFragments,
    texts_of_members]

theorem isGroup_combine {keys : String → Prop} {key : String} (hkey : isLogical key = true)
    {css : List (List Condition)} (hcss : css ≠ [])
    (h : ∀ t ∈ Condition.testsOfMembers css, t.IsOver keys) (b : Bindings) :
    IsGroup key ((numbered b css).map Predicate.memberText)
      (render ((combine key css).template.number b.next)) := by
  have hor := splitOutside_templates h hcss b
  obtain ⟨cs, css, rfl⟩ := List.exists_cons_of_ne_nil hcss
  rcases isLogical_cases hkey with rfl | rfl | rfl
  · exact ⟨_, Template.render_enclose "(" ")" _ b.next, hor⟩
  · exact ⟨_, Template.render_enclose "(" ")" _ b.next, render_templates " AND " _ b⟩
  · refine ⟨_, ?_, hor⟩
    have hnot : (combine "$nor" (cs :: css)).template =
        words "NOT " ++ (words "(" ++ Condition.templates " OR " (cs :: css) ++ words ")") := rfl
    rw [hnot, Template.render_words_append, Template.render_enclose, ← String.append_assoc,
      ← String.append_assoc]
    rfl

/-! ## The structure of a predicate -/

theorem comesApart_number {cs : List Condition} {keys : String → Prop}
    (h : ∀ t ∈ Condition.testsOfAll cs, t.IsOver keys) (b : Bindings) :
    (Predicate.number b.next cs).ComesApart ((Condition.clauses b cs).map render) := by
  unfold Predicate.ComesApart
  rw [Predicate.isEmpty_number]
  cases cs with
  | nil => exact rfl
  | cons c cs =>
      have hwf := (Condition.conjunction_clean (c :: cs) h).1 b.next
      rw [Condition.number_conjunction] at hwf
      have hsql : (Predicate.number b.next (c :: cs)).sql =
          joinFragments " AND " (Condition.clauses b (c :: cs)) :=
        Condition.number_conjunction b _
      rw [List.isEmpty_cons, if_neg Bool.false_ne_true, hsql]
      refine Fragment.splitOutside_join (by decide) rfl ?_ (Condition.clauses_pass h b) hwf
      rw [Condition.clauses, List.map_cons, Bindings.writeAll_cons]
      exact List.cons_ne_nil _ _

theorem keeps_together {cs : List Condition} {keys : String → Prop} (hcs : cs ≠ [])
    (h : ∀ t ∈ Condition.testsOfAll cs, t.IsOver keys) (next : Nat) :
    IsBalanced (render ((Condition.conjunction cs).number next)) ∧
      splitOutside " OR " (render ((Condition.conjunction cs).number next)) =
        some [render ((Condition.conjunction cs).number next)] := by
  have hwf := (Condition.conjunction_clean cs h).1 next
  have hpasses := (Condition.conjunction_solid hcs h).passes next
  exact ⟨hpasses.isBalanced hwf, hpasses.splitOutside_eq (by decide) rfl hwf⟩

theorem compile_group {c : Context} {before after : Document} {key : String} {items : List Json}
    {cs : List Condition} (hkey : isLogical key = true)
    (h : compile c (before ++ (key, .array items) :: after) = .ok cs) :
    ∃ (as : List Condition) (qs : List Document) (css : List (List Condition)) (bs : List Condition),
      compile c before = .ok as ∧ items = qs.map .object ∧
      qs.map (compile c) = css.map .ok ∧ compile c after = .ok bs ∧
      cs = as ++ combine key css :: bs := by
  have hskip : isSkipped c.schema key (.array items) = false := by
    rcases isLogical_cases hkey with rfl | rfl | rfl <;> simp [isSkipped, wantsAbsence, Json.get?] <;> decide
  rw [compile_append, compile, hskip] at h
  obtain ⟨as, ds, has, hds, rfl⟩ := Clauses.append_ok h
  obtain ⟨es, bs, hes, hbs, rfl⟩ := Clauses.append_ok hds
  rw [compileEntry, if_pos hkey] at hes
  split at hes
  · rename_i css hcss
    cases hes
    obtain ⟨qs, rfl, hqs⟩ := compileMembers_ok hcss
    exact ⟨as, qs, css, bs, has, rfl, hqs, hbs, rfl⟩
  · cases hes

theorem validateQuery_group {before after : Document} {key : String} {qs : List Document}
    (hkey : isLogical key = true)
    (h : validateQuery (before ++ (key, .array (qs.map .object)) :: after) = .ok ()) :
    validateQuery before = .ok () ∧ (∀ q ∈ qs, validateQuery q = .ok ()) ∧
      validateQuery after = .ok () := by
  obtain ⟨hbefore, hrest⟩ := validateQuery_append h
  rw [validateQuery, validateEntry, if_pos hkey] at hrest
  split at hrest
  · cases hrest
  · rename_i hmembers
    exact ⟨hbefore, validateMembers_objects hmembers, hrest⟩

theorem members_isOver {keys : String → Prop} {key : String} {css : List (List Condition)}
    (hcss : css ≠ []) (h : ∀ t ∈ (combine key css).tests, t.IsOver keys) :
    ∀ t ∈ Condition.testsOfMembers css, t.IsOver keys := by
  obtain ⟨cs, css, rfl⟩ := List.exists_cons_of_ne_nil hcss
  unfold combine at h
  dsimp only at h
  repeat' split at h
  all_goals exact h

/-- A predicate comes apart into the clauses of its query's constraints, and the clause of a combination of
queries is the group of their predicates. -/
theorem structure_survives {c : Context} {q : Document} {b b' : Bindings} {p : Predicate}
    (h : predicate c q b = (.ok p, b')) (hne : render p.sql ≠ "") :
    (∃ parts : List (List Condition),
      (constraints c.schema q).map (fun e => compileEntry c e.1 e.2) = parts.map .ok ∧
        splitOutside " AND " (render p.sql) =
          some ((Condition.clauses b parts.flatten).map render)) ∧
    IsBalanced (render p.sql) ∧
    splitOutside " OR " (render p.sql) = some [render p.sql] ∧
    ∀ before key items after, q = before ++ (key, .array items) :: after → isLogical key = true →
      items ≠ [] →
      ∃ p₀ b₁ qs ps b₂ p₁ front clause back,
        predicate c before b = (.ok p₀, b₁) ∧ items = qs.map .object ∧
        predicates c qs b₁ = (.ok ps, b₂) ∧ predicate c after b₂ = (.ok p₁, b') ∧
        p₀.ComesApart front ∧ IsGroup key (ps.map Predicate.memberText) clause ∧
        p₁.ComesApart back ∧
        splitOutside " AND " (render p.sql) = some (front ++ clause :: back) := by
  obtain ⟨cs, hv, hcs, rfl, rfl⟩ := predicate_ok h
  have hover := compile_only c q cs hcs
  have hcs' : cs ≠ [] := fun hnil => hne ((Condition.render_conjunction_eq b.next).mpr hnil)
  have hsplit : splitOutside " AND " (render (Predicate.number b.next cs).sql) =
      some ((Condition.clauses b cs).map render) := by
    have happart := comesApart_number hover b
    rwa [Predicate.ComesApart, Predicate.isEmpty_number, if_neg (by simpa using hcs')] at happart
  obtain ⟨hbalanced, htogether⟩ := keeps_together hcs' hover b.next
  refine ⟨?_, hbalanced, htogether, ?_⟩
  · obtain ⟨parts, hparts, rfl⟩ := compile_ok hcs
    exact ⟨parts, hparts, hsplit⟩
  · rintro before key items after rfl hkey hitems
    obtain ⟨as, qs, css, bs, has, rfl, hqs, hbs, rfl⟩ := compile_group hkey hcs
    obtain ⟨hvbefore, hvmembers, hvafter⟩ := validateQuery_group hkey hv
    rw [Condition.testsOfAll_append, Condition.testsOfAll_cons, List.forall_mem_append,
      List.forall_mem_append] at hover
    obtain ⟨hoveras, hovergroup, hoverbs⟩ := hover
    have hcss : css ≠ [] := by
      rintro rfl
      cases qs with
      | nil => exact hitems rfl
      | cons q qs => cases hqs
    let b₁ := b.append (Condition.values as)
    let b₂ := b₁.append (css.flatMap Condition.values)
    have hend : b.append (Condition.values (as ++ combine key css :: bs)) =
        b₂.append (Condition.values bs) := by
      have hgroup : Condition.values (combine key css :: bs) =
          css.flatMap Condition.values ++ Condition.values bs := by
        rw [← List.singleton_append, Condition.values_append, Condition.values_combine]
      simp only [b₁, b₂, Condition.values_append, hgroup, Bindings.append_append, List.append_assoc]
    have hclauses : Condition.clauses b (as ++ combine key css :: bs) = Condition.clauses b as ++
        (combine key css).template.number b₁.next :: Condition.clauses b₂ bs := by
      have hvalues : (combine key css).template.values = css.flatMap Condition.values :=
        Condition.values_combine key css
      rw [Condition.clauses_append, Condition.clauses_cons, hvalues]
    refine ⟨Predicate.number b.next as, b₁, qs, numbered b₁ css, b₂, Predicate.number b₂.next bs,
      (Condition.clauses b as).map render, render ((combine key css).template.number b₁.next),
      (Condition.clauses b₂ bs).map render, predicate_of_ok hvbefore has b, rfl,
      predicates_of_ok hvmembers hqs b₁, ?_, comesApart_number hoveras b, ?_,
      comesApart_number hoverbs b₂, ?_⟩
    · rw [predicate_of_ok hvafter hbs, hend]
    · exact isGroup_combine hkey hcss (members_isOver hcss hovergroup) b₁
    · rw [hsplit, hclauses, List.map_append, List.map_cons]

/-- A literal, then alternatives of which one is unconstrained. -/
def nestedQuery : Document :=
  [("title", .string "x"), ("$or", .array [.object [], .object [("title", .string "y")]])]

theorem structure_survives_nested :
    ∃ p b', predicate bareContext nestedQuery ⟨1, []⟩ = (.ok p, b') ∧ render p.sql ≠ "" ∧
      IsBalanced (render p.sql) ∧ splitOutside " OR " (render p.sql) = some [render p.sql] ∧
      ∃ ps b₁ b₂ front clause back,
        predicates bareContext [[], [("title", .string "y")]] b₁ = (.ok ps, b₂) ∧
        IsGroup "$or" (ps.map Predicate.memberText) clause ∧
        splitOutside " AND " (render p.sql) = some (front ++ clause :: back) := by
  obtain ⟨p, b', h⟩ : ∃ p b', predicate bareContext nestedQuery ⟨1, []⟩ = (.ok p, b') := ⟨_, _, rfl⟩
  have htitle : ¬ IsExempt bareContext.schema "title" (.string "x") := by
    rw [← isSkipped_iff]
    exact Bool.false_ne_true
  have hne : render p.sql ≠ "" := by
    obtain ⟨parts, -, -, -, hiff⟩ := predicate_parts h
    rw [ne_eq, hiff]
    exact fun hexempt => htitle (hexempt _ (.head _))
  obtain ⟨-, hbalanced, htogether, hgroups⟩ := structure_survives h hne
  obtain ⟨p₀, b₁, qs, ps, b₂, p₁, front, clause, back, -, hitems, hps, -, -, hgroup, -, hsplit⟩ :=
    hgroups [("title", .string "x")] "$or" _ [] rfl rfl (List.cons_ne_nil _ _)
  have hqs : qs = [[], [("title", .string "y")]] := by
    simpa [List.map_eq_cons_iff] using hitems.symm
  subst hqs
  exact ⟨p, b', h, hne, hbalanced, htogether, ps, b₁, b₂, front, clause, back, hps, hgroup, hsplit⟩

end Docstore.Query
