import Docstore.Proofs.Query.Pipelines
import Docstore.Proofs.Sql.Substitution

/-!
# Demands of pipelines

A demand is what a pipeline asks for, with the values where they are bound and no placeholders. Stages change a demand
as they change a pipeline (`compile_shows`), and a pipeline's statement says what its demand says, one clause behind the
other (`Pipeline.Shows.filled?_statement`).
-/

namespace Docstore.Query

open Docstore.Result (Corresponds)
open Docstore.Sql (Bindings FilledAs Fragment Statement Template named words)

/-! ## Selections -/

/-- The columns that stages select and group by. -/
structure Selection where
  outputs : List Output
  groupBy : List GroupKey
  countField : Option String
  groupKeys : List String

namespace Pipeline

def selection (p : Pipeline) : Selection := ⟨p.outputs, p.groupBy, p.countField, p.groupKeys⟩

/-- A pipeline with another selection. -/
def withSelection (p : Pipeline) (s : Selection) : Pipeline :=
  { p with outputs := s.outputs, groupBy := s.groupBy, countField := s.countField, groupKeys := s.groupKeys }

/-- What reads and changes the selection alone. -/
def Selects (f : Pipeline → Result Pipeline) : Prop :=
  ∀ p q : Pipeline, f (p.withSelection q.selection) = (f q).map fun r => p.withSelection r.selection

namespace Selects

variable {f g : Pipeline → Result Pipeline}

theorem ok : Selects .ok := fun (_ _ : Pipeline) => rfl

/-- What changes the selection alone leaves the rest. -/
theorem eq_withSelection (hf : Selects f) {p q : Pipeline} (h : f p = .ok q) : q = p.withSelection q.selection := by
  have hself := hf p p
  rw [h] at hself
  have hsame : f (p.withSelection p.selection) = .ok q := h
  exact Except.ok.inj (hsame.symm.trans hself)

/-- A change of the selection by a result. -/
theorem map {α : Type} (r : Result α) {change : α → Pipeline → Pipeline}
    (h : ∀ a (p q : Pipeline), change a (p.withSelection q.selection) = p.withSelection (change a q).selection) :
    Selects fun p => r.map fun a => change a p := by
  intro p q
  cases r with
  | ok a => exact congrArg Except.ok (h a p q)
  | error e => rfl

theorem bind (hf : Selects f) (hg : Selects g) : Selects fun p => (f p).bind g := by
  intro p q
  dsimp only
  rw [hf p q]
  cases f q with
  | ok r => exact hg p r
  | error e => rfl

theorem behind {α : Type} (r : Result α) (hf : Selects f) : Selects fun p => r.bind fun _ => f p := by
  intro p q
  cases r with
  | ok a => exact hf p q
  | error e => rfl

theorem foldlM {α : Type} {f : Pipeline → α → Result Pipeline} (hf : ∀ a, Selects (f · a)) (xs : List α) :
    Selects fun p => xs.foldlM f p := by
  induction xs with
  | nil => exact ok
  | cons x xs ih =>
      simp only [List.foldlM_cons]
      exact (hf x).bind ih

theorem accumulate (field : String) (fields : Document) : Selects (Pipeline.accumulate field fields) := by
  refine behind _ (foldlM (fun ⟨op, function⟩ => ?_) accumulators)
  dsimp only
  cases Fields.get? op fields with
  | none => exact ok
  | some v =>
      cases v with
      | string reference => exact map _ fun _ _ _ => rfl
      | _ =>
          dsimp only
          split
          · exact fun _ _ => rfl
          · exact ok

theorem groupEntry (field : String) (v : Json) : Selects (Pipeline.groupEntry · field v) := by
  cases v with
  | string reference =>
      dsimp only [Pipeline.groupEntry]
      split
      · exact map _ fun _ _ _ => rfl
      · exact ok
  | object fields =>
      dsimp only [Pipeline.groupEntry]
      split
      · exact map _ fun _ _ _ => rfl
      · exact accumulate field fields
  | _ => exact ok

theorem group (v : Option Json) : Selects (Pipeline.group · v) := by
  cases v with
  | none => exact ok
  | some v =>
      cases v with
      | object entries => exact foldlM (fun ⟨field, value⟩ => groupEntry field value) entries
      | _ => exact fun _ _ => rfl

theorem project (v : Option Json) : Selects (Pipeline.project · v) := by
  cases v with
  | none => exact ok
  | some v =>
      cases v with
      | object fields =>
          refine foldlM (fun ⟨field, value⟩ => ?_) fields
          dsimp only
          split
          · exact map _ fun _ _ _ => rfl
          · exact ok
      | _ => exact ok

end Selects

end Pipeline

/-! ## Demands -/

/-- What stages ask for. -/
structure Demand where
  selection : Selection
  filter : Option Template
  /-- The names of columns, and whether they ascend. -/
  order : List (String × Bool)
  limit : Option Int
  offset : Option Int

/-- The selection after a stage; operators make the other parts of a demand of their operands. -/
def Selection.after (s : Selection) (stage : Json) : Result Selection := do
  let p ← (Pipeline.empty.withSelection s).group (stage.get? "$group")
  let p ← p.project (stage.get? "$project")
  return p.selection

def filterAfter (schema : Schema) (filter : Option Template) : Option Json → Result (Option Template)
  | some (.object entries) =>
    (Pipeline.constraintsOf schema (Pipeline.filterEntries entries).1).map fun cs =>
      if cs.isEmpty then none else some (Template.join (Pipeline.filterEntries entries).2 cs)
  | _ => .ok filter

def orderAfter (order : List (String × Bool)) : Option Json → Result (List (String × Bool))
  | some (.object fields) =>
    fields.mapM fun (key, direction) =>
      (validateKey (storedName key)).map fun _ => (storedName key, decide (direction.int64? = some 1))
  | _ => .ok order

def countAfter (operator : String) (count : Option Int) : Option Json → Result (Option Int)
  | some v => (Pipeline.rowCount operator v).map some
  | none => .ok count

namespace Demand

def empty : Demand := ⟨Pipeline.empty.selection, none, [], none, none⟩

/-- One stage changes each part on its own. -/
def stage (schema : Schema) (d : Demand) (v : Json) : Result Demand := do
  let selection ← d.selection.after v
  let filter ← filterAfter schema d.filter (v.get? "$match")
  let limit ← countAfter "$limit" d.limit (v.get? "$limit")
  let offset ← countAfter "$skip" d.offset (v.get? "$skip")
  let order ← orderAfter d.order (v.get? "$sort")
  return ⟨selection, filter, order, limit, offset⟩

/-- The demand of a pipeline's stages. -/
def run (schema : Schema) (stages : List Json) : Result Demand := stages.foldlM (stage schema) empty

/-- A clause, if there is anything in it. -/
def clause (start : String) (items : List Template) : Template :=
  if items.isEmpty then [] else words start ++ Template.join ", " items

def sortItem (item : String × Bool) : Template := named item.1 ++ words (if item.2 then " ASC" else " DESC")

/-- Columns, or all that there are. -/
def orStar (columns : List Template) : List Template := if columns.isEmpty then [words "*"] else columns

/-- The statement of a demand, its clauses in the order of SQL. -/
def template (d : Demand) (className : String) : Template :=
  words "SELECT " ++ Template.join ", " (orStar (d.selection.outputs.map Output.template)) ++
    words " FROM " ++ named className ++
    clause " WHERE " d.filter.toList ++
    clause " GROUP BY " (d.selection.groupBy.map GroupKey.template) ++
    clause " ORDER BY " (d.order.map sortItem) ++
    countClause " LIMIT " d.limit ++
    countClause " OFFSET " d.offset

end Demand

namespace Pipeline

/-- A pipeline that asks for what a demand says, whichever placeholders it does so with. -/
structure Shows (p : Pipeline) (d : Demand) : Prop where
  first : p.bindings.first = 1
  selection : p.selection = d.selection
  filter : FilledAs p.bindings p.filter.toList d.filter.toList
  order : FilledAs p.bindings p.order (d.order.map Demand.sortItem)
  limit : Fragment.filled? p.bindings p.limit = some (countClause " LIMIT " d.limit)
  offset : Fragment.filled? p.bindings p.offset = some (countClause " OFFSET " d.offset)

namespace Shows

variable {schema : Schema} {p : Pipeline} {d : Demand}

theorem empty : empty.Shows .empty where
  first := rfl
  selection := rfl
  filter := .nil
  order := .nil
  limit := rfl
  offset := rfl

theorem withSelection (h : p.Shows d) (s : Selection) : (p.withSelection s).Shows { d with selection := s } where
  first := h.first
  selection := rfl
  filter := h.filter
  order := h.order
  limit := h.limit
  offset := h.offset

/-- Binding more values does not change what a pipeline asks for. -/
theorem append (h : p.Shows d) (vs : List Value) : { p with bindings := p.bindings.append vs }.Shows d where
  first := h.first
  selection := h.selection
  filter := h.filter.imp fun _ _ => Fragment.filled?_append_values vs
  order := h.order.imp fun _ _ => Fragment.filled?_append_values vs
  limit := Fragment.filled?_append_values vs h.limit
  offset := Fragment.filled?_append_values vs h.offset

end Shows

/-- A template that is written says what it said. -/
theorem filled?_write (b : Bindings) {t : Template} (ht : .again ∉ t) :
    Fragment.filled? (b.write t).2 (b.write t).1 = some t :=
  Fragment.filled?_number ht (Bindings.holds_append_self b t.values)

theorem again_not_mem_countClause (start : String) (n : Option Int) : .again ∉ countClause start n := by
  cases n <;> simp [countClause, words, Sql.value]

theorem filled?_sortEntry (b : Bindings) (name : String) (direction : Json) :
    Fragment.filled? b [.name name, .text (if direction.int64? = some 1 then " ASC" else " DESC")] =
      some (Demand.sortItem (name, decide (direction.int64? = some 1))) := by
  simp only [Demand.sortItem, decide_eq_true_eq]
  rfl

namespace Shows

variable {schema : Schema} {p : Pipeline} {d : Demand}

/-! ### Operators -/

theorem filterRows (h : p.Shows d) (v : Option Json) :
    Corresponds (fun q filter => q.Shows { d with filter }) (filterRows schema p v)
      (filterAfter schema d.filter v) := by
  cases v with
  | none => exact .ok h
  | some v =>
      cases v with
      | object entries =>
          refine .map_map fun cs hcs => ?_
          have hfresh := (join_constraints hcs).1
          have hgrown := h.append (Template.values (Template.join (filterEntries entries).2 cs))
          refine ⟨hgrown.first, hgrown.selection, ?_, hgrown.order, hgrown.limit, hgrown.offset⟩
          cases cs with
          | nil => exact .nil
          | cons c cs => exact .cons (filled?_write p.bindings hfresh.2) .nil
      | _ => exact .ok h

theorem limitRows (h : p.Shows d) (v : Option Json) :
    Corresponds (fun q limit => q.Shows { d with limit }) (p.limitRows v) (countAfter "$limit" d.limit v) := by
  cases v with
  | none => exact .ok h
  | some v =>
      refine .map_map fun n _ => ?_
      have hgrown := h.append (Template.values (countClause " LIMIT " (some n)))
      exact ⟨hgrown.first, hgrown.selection, hgrown.filter, hgrown.order,
        filled?_write p.bindings (again_not_mem_countClause _ _), hgrown.offset⟩

theorem skipRows (h : p.Shows d) (v : Option Json) :
    Corresponds (fun q offset => q.Shows { d with offset }) (p.skipRows v) (countAfter "$skip" d.offset v) := by
  cases v with
  | none => exact .ok h
  | some v =>
      refine .map_map fun n _ => ?_
      have hgrown := h.append (Template.values (countClause " OFFSET " (some n)))
      exact ⟨hgrown.first, hgrown.selection, hgrown.filter, hgrown.order, hgrown.limit,
        filled?_write p.bindings (again_not_mem_countClause _ _)⟩

theorem sortRows (h : p.Shows d) (v : Option Json) :
    Corresponds (fun q order => q.Shows { d with order }) (p.sortRows v) (orderAfter d.order v) := by
  cases v with
  | none => exact .ok h
  | some v =>
      cases v with
      | object fields =>
          have hitems : Corresponds
              (List.Forall₂ fun f item => Fragment.filled? p.bindings f = some (Demand.sortItem item))
              (fields.mapM fun (key, direction) => sortEntry key direction)
              (orderAfter d.order (some (.object fields))) :=
            .mapM (fun ⟨key, direction⟩ => .map_map fun _ _ => filled?_sortEntry _ _ _) fields
          refine hitems.map_left fun order items horder => ?_
          exact ⟨h.first, h.selection, h.filter, List.forall₂_map_right_iff.mpr horder, h.limit, h.offset⟩
      | _ => exact .ok h

/-- What a stage selects depends on what was selected before alone. -/
theorem select (h : p.Shows d) (v : Json) : Corresponds (fun q selection => q.Shows { d with selection })
    ((p.group (v.get? "$group")).bind (Pipeline.project · (v.get? "$project"))) (d.selection.after v) := by
  have hselects := (Selects.group (v.get? "$group")).bind (Selects.project (v.get? "$project"))
  have hp : p.withSelection (Pipeline.empty.withSelection d.selection).selection = p := by
    show p.withSelection d.selection = p
    rw [← h.selection]
    rfl
  have hafter : d.selection.after v = (((Pipeline.empty.withSelection d.selection).group (v.get? "$group")).bind
      (Pipeline.project · (v.get? "$project"))).map Pipeline.selection := by
    unfold Selection.after
    cases (Pipeline.empty.withSelection d.selection).group (v.get? "$group") <;> rfl
  have hrun := hselects p (Pipeline.empty.withSelection d.selection)
  rw [hp] at hrun
  dsimp only at hrun
  rw [hrun, hafter]
  exact .map_map fun q _ => h.withSelection q.selection

/-- A stage changes what a pipeline asks for as it changes the demand. -/
theorem stage (h : p.Shows d) (v : Json) : Corresponds Shows (stage schema p v) (d.stage schema v) := by
  have hstage : Pipeline.stage schema p v =
      ((p.group (v.get? "$group")).bind (Pipeline.project · (v.get? "$project"))).bind fun p =>
        (Pipeline.filterRows schema p (v.get? "$match")).bind fun p =>
          (p.limitRows (v.get? "$limit")).bind fun p =>
            (p.skipRows (v.get? "$skip")).bind fun p => p.sortRows (v.get? "$sort") := by
    unfold Pipeline.stage
    cases p.group (v.get? "$group") <;> rfl
  rw [hstage]
  refine (h.select v).bind fun _ _ h => ?_
  refine (h.filterRows _).bind fun _ _ h => ?_
  refine (h.limitRows _).bind fun _ _ h => ?_
  refine (h.skipRows _).bind fun _ _ h => ?_
  exact (h.sortRows _).map_right fun _ _ h => h

end Shows

/-- A run of stages asks for what its demand says. -/
theorem compile_shows (schema : Schema) (stages : List Json) :
    Corresponds Shows (compile schema stages) (Demand.run schema stages) :=
  .foldlM (fun _ _ v h => h.stage v) stages .empty

/-! ## Statements -/

/-- What binds no value says the same whatever is bound. -/
theorem filledAs_constants (b : Bindings) {α : Type} {template : α → Template}
    (h : ∀ a, .again ∉ template a ∧ (template a).values = []) (xs : List α) :
    FilledAs b (xs.map fun a => (template a).number 1) (xs.map template) := by
  refine List.forall₂_map_left_iff.mpr (List.forall₂_map_right_iff.mpr (List.forall₂_same.mpr fun a _ => ?_))
  obtain ⟨hagain, hvalues⟩ := h a
  refine Fragment.filled?_number hagain ?_
  rw [hvalues]
  trivial

theorem groupKey_constant (k : GroupKey) : .again ∉ k.template ∧ k.template.values = [] := by
  cases k <;> simp [GroupKey.template, words, named]

theorem output_constant (o : Output) : .again ∉ o.template ∧ o.template.values = [] := by
  cases o with
  | key k label =>
      obtain ⟨hagain, hvalues⟩ := groupKey_constant k
      simp [Output.template, words, named, hagain, hvalues]
  | _ => simp [Output.template, words, named]

theorem filled?_clauseOf {b : Bindings} (start : String) {fs : List Fragment} {ts : List Template}
    (h : FilledAs b fs ts) : Fragment.filled? b (clauseOf start fs) = some (Demand.clause start ts) := by
  cases h with
  | nil => rfl
  | cons hf hrest => exact Fragment.filled?_text start (Fragment.filled?_joinFragments ", " (.cons hf hrest))

theorem filledAs_orAll {b : Bindings} {fs : List Fragment} {ts : List Template} (h : FilledAs b fs ts) :
    FilledAs b (orAll fs) (Demand.orStar ts) := by
  cases h with
  | nil => exact .cons rfl .nil
  | cons hf hrest => exact .cons hf hrest

/-- The statement of a pipeline says what its demand says. -/
theorem Shows.filled?_statement {p : Pipeline} {d : Demand} (h : p.Shows d) (schema : Schema) :
    (p.statement schema).filled? = some (d.template schema.className) := by
  have hbindings : (⟨1, p.bindings.values⟩ : Bindings) = p.bindings := by rw [← h.first]
  have hcolumns := Fragment.filled?_joinFragments ", "
    (filledAs_orAll (filledAs_constants p.bindings output_constant p.outputs))
  have hgroups := filled?_clauseOf " GROUP BY " (filledAs_constants p.bindings groupKey_constant p.groupBy)
  have horder := filled?_clauseOf " ORDER BY " h.order
  have hfilter := filled?_clauseOf " WHERE " h.filter
  have hsql : (p.statement schema).sql = [.text "SELECT "] ++
      Sql.joinFragments ", " (orAll (p.outputs.map fun o => o.template.number 1)) ++ [.text " FROM "] ++
      [.name schema.className] ++ clauseOf " WHERE " p.filter.toList ++
      clauseOf " GROUP BY " (p.groupBy.map fun k => k.template.number 1) ++ clauseOf " ORDER BY " p.order ++
      p.limit ++ p.offset := by
    unfold statement
    cases p.filter <;> simp [clauseOf, Sql.joinFragments]
  rw [Statement.filled?, hsql, Demand.template, ← h.selection]
  show Fragment.filled? ⟨1, p.bindings.values⟩ _ = _
  rw [hbindings]
  -- Clause by clause, the last one first.
  refine Fragment.filled?_append ?_ h.offset
  refine Fragment.filled?_append ?_ h.limit
  refine Fragment.filled?_append ?_ horder
  refine Fragment.filled?_append ?_ hgroups
  refine Fragment.filled?_append ?_ hfilter
  refine Fragment.filled?_append (Fragment.filled?_append ?_ rfl) rfl
  exact Fragment.filled?_append rfl hcolumns

end Pipeline

end Docstore.Query
