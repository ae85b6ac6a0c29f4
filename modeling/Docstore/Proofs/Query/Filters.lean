import Docstore.Proofs.Query.Grouping
import Docstore.Proofs.Query.Rows

/-!
# Filters of pipelines

What the filter of a pipeline keeps of what its stage asks for: a condition for each constraint that says anything, and
rows that meet all of them, or one of them where alternatives were asked for. Main statement:
`Pipeline.filter_constraints`.
-/

namespace Docstore.Query

open Docstore.Sql (Bindings Fragment Lexeme Template Truth read render words)
open Docstore.Sql.Template (Reads)

namespace Pipeline

variable {schema : Schema} {key : String} {value : Json}

/-! ## Constraints as conditions -/

/-- The tests of the comparisons that a constraint asks for. -/
def comparisonTests (column : String) (value : Json) : List Test :=
  comparisons.filterMap fun (operator, c) =>
    (value.get? operator).map fun operand => .compares (.column column) c (Encoding.untyped operand)

/-- The value that a field is compared with. -/
def comparand (type : FieldType) (value : Json) : Result Value :=
  if type.column?.isSome then Encoding.encode type value else .ok (Encoding.untyped value)

/-- The condition that a constraint stands for. -/
def condition (schema : Schema) (key : String) (value : Json) : Result (Option Condition) := do
  validateKey (storedName key)
  if !(comparisonTests (storedName key) value).isEmpty then
    return some (.allOf ((comparisonTests (storedName key) value).map fun t => [.test t]))
  match schema.fieldType? (storedName key) with
  | none => return none
  | some type => (comparand type value).map fun v => some (.test (.equals (.column (storedName key)) v))

/-- Whether a constraint says anything: a comparison, or a value of a field that is declared. -/
def constrains (schema : Schema) (key : String) (value : Json) : Bool :=
  !(comparisonTests (storedName key) value).isEmpty || (schema.fieldType? (storedName key)).isSome

def conditionsOf (schema : Schema) : Document → Result (List Condition)
  | [] => .ok []
  | (key, value) :: rest => do
    let c ← condition schema key value
    let cs ← conditionsOf schema rest
    return c.toList ++ cs

theorem comparisonsOf_eq (column : String) (value : Json) :
    comparisonsOf column value = (comparisonTests column value).map Test.template := by
  rw [comparisonsOf, comparisonTests, List.map_filterMap]
  refine congrArg (comparisons.filterMap ·) (funext fun ⟨operator, c⟩ => ?_)
  dsimp only
  rw [Option.map_map]
  rfl

theorem template_comparisons (ts : List Test) : Condition.template (.allOf (ts.map fun t => [.test t])) =
    words "(" ++ Template.join " AND " (ts.map Test.template) ++ words ")" := by
  rw [Condition.template, Condition.templates_eq_join, List.map_map]
  rfl

theorem constraint_eq (schema : Schema) (key : String) (value : Json) :
    constraint schema key value = (condition schema key value).map (Option.map Condition.template) := by
  unfold constraint condition
  dsimp only
  rw [comparisonsOf_eq, List.isEmpty_map]
  cases validateKey (storedName key) with
  | error e => rfl
  | ok =>
      show (if _ then _ else _) = Except.map _ (if _ then _ else _)
      split
      · rw [← template_comparisons]
        rfl
      · cases schema.fieldType? (storedName key) with
        | none => rfl
        | some type =>
            dsimp only [comparand]
            split
            · cases Encoding.encode type value <;> rfl
            · rfl

theorem constraintsOf_eq (schema : Schema) (entries : Document) :
    constraintsOf schema entries = (conditionsOf schema entries).map (List.map Condition.template) := by
  induction entries with
  | nil => rfl
  | cons e rest ih =>
      obtain ⟨key, value⟩ := e
      rw [constraintsOf, conditionsOf, constraint_eq, ih]
      cases condition schema key value with
      | error e => rfl
      | ok c =>
          cases conditionsOf schema rest with
          | error e => rfl
          | ok cs => cases c <;> rfl

theorem condition_isSome {c : Option Condition} (h : condition schema key value = .ok c) :
    c.isSome = constrains schema key value := by
  obtain ⟨-, -, h⟩ := Result.bind_ok h
  unfold constrains
  split at h
  next hcompared =>
    cases h
    rw [hcompared]
    rfl
  next hcompared =>
    rw [Bool.eq_false_iff.mpr hcompared, Bool.false_or]
    split at h
    next hnone =>
      cases h
      rw [hnone]
      rfl
    next type htype =>
      obtain ⟨v, -, rfl⟩ := Result.map_ok h
      rw [htype]
      rfl

theorem comparisonTests_isOver {column : String} {t : Test} (h : t ∈ comparisonTests column value) :
    t.IsOver fun _ => True := by
  obtain ⟨⟨operator, c⟩, -, h⟩ := List.mem_filterMap.mp h
  obtain ⟨operand, -, rfl⟩ := Option.map_eq_some_iff.mp h
  trivial

theorem testsOfMembers_map_test (ts : List Test) : Condition.testsOfMembers (ts.map fun t => [.test t]) = ts := by
  induction ts with
  | nil => rfl
  | cons t ts ih =>
      rw [List.map_cons, Condition.testsOfMembers_cons, ih]
      rfl

theorem condition_isOver {c : Condition} (h : condition schema key value = .ok (some c)) :
    ∀ t ∈ c.tests, t.IsOver fun _ => True := by
  obtain ⟨-, -, h⟩ := Result.bind_ok h
  split at h
  · cases h
    rw [Condition.tests_allOf, testsOfMembers_map_test]
    exact fun t ht => comparisonTests_isOver ht
  · split at h
    · cases h
    · obtain ⟨v, -, h⟩ := Result.map_ok h
      cases h
      exact List.forall_mem_singleton.mpr trivial

theorem conditionsOf_isOver {entries : Document} {cs : List Condition} (h : conditionsOf schema entries = .ok cs) :
    ∀ c ∈ cs, ∀ t ∈ c.tests, t.IsOver fun _ => True := by
  induction entries generalizing cs with
  | nil =>
      cases h
      exact List.forall_mem_nil _
  | cons e rest ih =>
      obtain ⟨key, value⟩ := e
      obtain ⟨c, hc, h⟩ := Result.bind_ok h
      obtain ⟨cs', hcs', h⟩ := Result.bind_ok h
      cases h
      refine List.forall_mem_append.mpr ⟨fun d hd => ?_, ih hcs'⟩
      exact condition_isOver (hc.trans (congrArg _ (Option.mem_toList.mp hd)))

theorem condition_of_mem {entries : Document} {cs : List Condition} (h : conditionsOf schema entries = .ok cs)
    (he : (key, value) ∈ entries) : ∃ c, condition schema key value = .ok c := by
  induction entries generalizing cs with
  | nil => cases he
  | cons e rest ih =>
      obtain ⟨c, hc, h⟩ := Result.bind_ok h
      obtain ⟨cs', hcs', -⟩ := Result.bind_ok h
      rcases List.mem_cons.mp he with rfl | he
      · exact ⟨c, hc⟩
      · exact ih hcs' he

/-- The conditions are those of the entries that say anything. -/
theorem mem_conditionsOf {entries : Document} {cs : List Condition} (h : conditionsOf schema entries = .ok cs)
    {c : Condition} : c ∈ cs ↔ ∃ key value, (key, value) ∈ entries ∧ condition schema key value = .ok (some c) := by
  induction entries generalizing cs with
  | nil =>
      cases h
      simp
  | cons e rest ih =>
      obtain ⟨c', hc', h⟩ := Result.bind_ok h
      obtain ⟨cs', hcs', h⟩ := Result.bind_ok h
      cases h
      rw [List.mem_append, ih hcs', Option.mem_toList]
      constructor
      · rintro (rfl | ⟨key, value, he, hc⟩)
        · exact ⟨e.1, e.2, .head _, hc'⟩
        · exact ⟨key, value, .tail _ he, hc⟩
      · rintro ⟨key, value, he, hc⟩
        rcases List.mem_cons.mp he with rfl | he
        · cases hc'.symm.trans hc
          exact .inl rfl
        · exact .inr ⟨key, value, he, hc⟩

/-! ## What filters ask for -/

variable {filter : Document}

/-- The fields of a member; other values are ignored. -/
def memberFields? : Json → Option Document
  | .object fields => some fields
  | _ => none

/-- The members of a list of alternatives, if a filter has one. -/
def alternatives? (filter : Document) : Option (List Document) :=
  match Fields.get? "$or" filter with
  | some (.array members) => some (members.filterMap memberFields?)
  | _ => none

/-- What a filter asks for: its entries, or those of its alternatives, of which the last one of a key counts. -/
inductive Asks (filter : Document) (key : String) (value : Json) : Prop
  | entry (h : alternatives? filter = none) (he : (key, value) ∈ filter)
  | alternative (members : List Document) (h : alternatives? filter = some members) (before after : Document)
      (hmembers : members.flatten = before ++ (key, value) :: after) (hlast : key ∉ Fields.names after)

theorem insertAll_members (members : List Json) (all : Document) :
    (members.foldl (fun all member =>
      match member with
      | .object fields => Fields.insertAll all fields
      | _ => all) all) = Fields.insertAll all (members.filterMap memberFields?).flatten := by
  induction members generalizing all with
  | nil => rfl
  | cons member rest ih =>
      rw [List.foldl_cons, ih]
      cases member with
      | object fields => exact List.foldl_append.symm
      | _ => rfl

theorem filterEntries_some {members : List Document} (h : alternatives? filter = some members) :
    filterEntries filter = (Fields.ofPairs members.flatten, " OR ") := by
  unfold alternatives? at h
  split at h
  next items hitems =>
    cases h
    unfold filterEntries
    rw [hitems]
    exact congrArg (·, " OR ") (insertAll_members items [])
  next => cases h

theorem filterEntries_none (h : alternatives? filter = none) : filterEntries filter = (filter, " AND ") := by
  unfold alternatives? at h
  split at h
  next => cases h
  next hnone =>
    unfold filterEntries
    split
    next items hitems => exact absurd hitems (hnone items)
    next => rfl

theorem joiner_eq (filter : Document) :
    (filterEntries filter).2 = if (alternatives? filter).isSome then " OR " else " AND " := by
  cases h : alternatives? filter with
  | none => rw [filterEntries_none h]; rfl
  | some members => rw [filterEntries_some h]; rfl

theorem asks_iff : Asks filter key value ↔ (key, value) ∈ (filterEntries filter).1 := by
  cases hor : alternatives? filter with
  | none =>
      rw [filterEntries_none hor]
      constructor
      · rintro (⟨-, he⟩ | ⟨members, h⟩)
        · exact he
        · cases h.symm.trans hor
      · exact .entry hor
  | some members =>
      have hnodup : (Fields.names (Fields.ofPairs members.flatten)).Nodup := Fields.nodup_insertAll List.nodup_nil
      rw [filterEntries_some hor, ← Fields.get?_eq_some_iff hnodup, Fields.get?_ofPairs_eq_some_iff]
      constructor
      · rintro (⟨h, -⟩ | ⟨members', h, before, after, hmembers, hlast⟩)
        · cases h.symm.trans hor
        · cases h.symm.trans hor
          exact ⟨before, after, hmembers, hlast⟩
      · rintro ⟨before, after, hmembers, hlast⟩
        exact .alternative members hor before after hmembers hlast

/-! ## What filters say of rows -/

/-- What the filter of a pipeline says of a row; no filter keeps every row. -/
def truth (p : Pipeline) (row : Row) : Truth :=
  match p.filter with
  | none => .yes
  | some f =>
    match read (render f) with
    | some ls => Lexeme.truth (fun ls => row.answer (p.bindings.items ls)) ls
    | none => .unknown

/-- What conditions say together: one of them where a filter has alternatives, and otherwise all of them. -/
def together (filter : Document) (ts : List Truth) : Truth :=
  if (alternatives? filter).isSome then .any ts else .all ts

variable {cs : List Condition}

theorem conditions_read (h : conditionsOf schema (filterEntries filter).1 = .ok cs) (hcs : cs ≠ []) (row : Row) :
    Reads row.answer (Template.join (filterEntries filter).2 (cs.map Condition.template))
      (together filter (cs.map (Condition.truth row))) := by
  have hover := conditionsOf_isOver h
  have hreads : ∀ c ∈ cs, Reads row.answer c.template (c.truth row) := fun c hc => c.template_reads (hover c hc)
  have hwhole : ∀ c ∈ cs, c.template.Whole := fun c hc => Condition.template_whole (hover c hc)
  unfold together
  cases hor : alternatives? filter with
  | none =>
      rw [filterEntries_none hor]
      exact Reads.all hreads hcs hwhole
  | some members =>
      rw [filterEntries_some hor]
      exact Reads.any hreads hcs fun c hc => (hwhole c hc).or

/-- The filter is a template that was written, and its values are still bound. -/
def IsFilteredBy (p : Pipeline) (t : Template) : Prop :=
  ∃ next, p.filter = some (t.number next) ∧ p.bindings.Holds next t.values

theorem IsFilteredBy.truth {p : Pipeline} {t : Template} (h : p.IsFilteredBy t) (ht : t.Fresh) {row : Row} {x : Truth}
    (hreads : Reads row.answer t x) : p.truth row = x := by
  obtain ⟨next, hfilter, hholds⟩ := h
  rw [Pipeline.truth, hfilter]
  dsimp only
  rw [(ht.1 next).read_render]
  exact hreads p.bindings next hholds

/-! ## Filters in runs of stages -/

/-- More values are bound, and the filter stays. -/
structure KeepsFilter (p q : Pipeline) : Prop where
  filter : q.filter = p.filter
  bindings : ∃ vs, q.bindings = p.bindings.append vs

namespace KeepsFilter

variable {p q r : Pipeline} {v : Option Json}

theorem of_eq (hfilter : q.filter = p.filter) (hbindings : q.bindings = p.bindings) : p.KeepsFilter q :=
  ⟨hfilter, [], by rw [hbindings, Bindings.append, List.append_nil]⟩

theorem refl (p : Pipeline) : p.KeepsFilter p := of_eq rfl rfl

theorem trans (h : p.KeepsFilter q) (h' : q.KeepsFilter r) : p.KeepsFilter r := by
  obtain ⟨vs, hvs⟩ := h.bindings
  obtain ⟨ws, hws⟩ := h'.bindings
  exact ⟨h'.filter.trans h.filter, vs ++ ws, by rw [hws, hvs, Bindings.append_append]⟩

theorem isFilteredBy (h : p.KeepsFilter q) {t : Template} (hp : p.IsFilteredBy t) : q.IsFilteredBy t := by
  obtain ⟨next, hfilter, hholds⟩ := hp
  obtain ⟨vs, hvs⟩ := h.bindings
  exact ⟨next, h.filter.trans hfilter, hvs ▸ hholds.append vs⟩

theorem selects {f : Pipeline → Result Pipeline} (hf : Selects f) (h : f p = .ok q) : p.KeepsFilter q := by
  rw [hf.eq_withSelection h]
  exact of_eq rfl rfl

theorem limitRows (h : p.limitRows v = .ok q) : p.KeepsFilter q := by
  unfold Pipeline.limitRows at h
  split at h
  · cases h
    exact refl p
  · obtain ⟨n, -, rfl⟩ := Result.map_ok h
    exact ⟨rfl, _, rfl⟩

theorem skipRows (h : p.skipRows v = .ok q) : p.KeepsFilter q := by
  unfold Pipeline.skipRows at h
  split at h
  · cases h
    exact refl p
  · obtain ⟨n, -, rfl⟩ := Result.map_ok h
    exact ⟨rfl, _, rfl⟩

theorem sortRows (h : p.sortRows v = .ok q) : p.KeepsFilter q := by
  unfold Pipeline.sortRows at h
  split at h
  · obtain ⟨order, -, rfl⟩ := Result.map_ok h
    exact of_eq rfl rfl
  · cases h
    exact refl p

end KeepsFilter

/-- A stage filters between what leaves the filter as it is. -/
theorem stage_filter {p q : Pipeline} {v : Json} (h : stage schema p v = .ok q) :
    ∃ p' q', p.KeepsFilter p' ∧ filterRows schema p' (v.get? "$match") = .ok q' ∧ q'.KeepsFilter q := by
  obtain ⟨p₁, h₁, h⟩ := Result.bind_ok h
  obtain ⟨p₂, h₂, h⟩ := Result.bind_ok h
  obtain ⟨p₃, h₃, h⟩ := Result.bind_ok h
  obtain ⟨p₄, h₄, h⟩ := Result.bind_ok h
  obtain ⟨p₅, h₅, h⟩ := Result.bind_ok h
  have hbefore := (KeepsFilter.selects (.group _) h₁).trans (KeepsFilter.selects (.project _) h₂)
  have hbehind := (KeepsFilter.limitRows h₄).trans ((KeepsFilter.skipRows h₅).trans (KeepsFilter.sortRows h))
  exact ⟨p₂, p₃, hbefore, h₃, hbehind⟩

theorem stage_keepsFilter {p q : Pipeline} {v : Json} (h : stage schema p v = .ok q) (hv : filterOf? v = none) :
    p.KeepsFilter q := by
  obtain ⟨p', q', hbefore, hfilter, hbehind⟩ := stage_filter h
  refine hbefore.trans (KeepsFilter.trans ?_ hbehind)
  unfold filterOf? filterIn? at hv
  unfold filterRows at hfilter
  split at hfilter
  next entries hentries =>
    rw [hentries] at hv
    cases hv
  next =>
    cases hfilter
    exact .refl p'

theorem stage_isFilteredBy {p q : Pipeline} {v : Json} (h : stage schema p v = .ok q) (hv : filterOf? v = some filter) :
    ∃ cs, conditionsOf schema (filterEntries filter).1 = .ok cs ∧ (cs = [] → q.filter = none) ∧
      (cs ≠ [] → q.IsFilteredBy (Template.join (filterEntries filter).2 (cs.map Condition.template))) := by
  obtain ⟨p', q', -, hfilter, hbehind⟩ := stage_filter h
  unfold filterOf? filterIn? at hv
  split at hv
  next entries hentries =>
    cases hv
    rw [hentries] at hfilter
    obtain ⟨ts, hts, rfl⟩ := Result.map_ok hfilter
    rw [constraintsOf_eq] at hts
    obtain ⟨cs, hcs, rfl⟩ := Result.map_ok hts
    refine ⟨cs, hcs, ?_, fun hsome => hbehind.isFilteredBy ⟨p'.bindings.next, ?_, Bindings.holds_append_self _ _⟩⟩
    · rintro rfl
      exact hbehind.filter
    · exact if_neg (by simpa using hsome)
  next => cases hv

/-- What a pipeline with one filter asks for of it. -/
theorem compile_isFilteredBy {stages : List Json} {p : Pipeline} (h : compile schema stages = .ok p)
    (hstages : stages.filterMap filterOf? = [filter]) :
    ∃ cs, conditionsOf schema (filterEntries filter).1 = .ok cs ∧ (cs = [] → p.filter = none) ∧
      (cs ≠ [] → p.IsFilteredBy (Template.join (filterEntries filter).2 (cs.map Condition.template))) := by
  -- The stages in front of the filter only move its placeholders; those behind it leave its values bound.
  obtain ⟨before, v, after, rfl, -, hv, hafter⟩ := List.filterMap_eq_cons_iff.mp hstages
  rw [compile, List.foldlM_append] at h
  obtain ⟨p₁, -, h⟩ := Result.bind_ok h
  obtain ⟨p₂, h₂, h⟩ := Result.foldlM_cons_eq_ok_iff.mp h
  obtain ⟨cs, hcs, hnone, hfiltered⟩ := stage_isFilteredBy h₂ hv
  have hkeeps : p₂.KeepsFilter p :=
    Result.foldlM_ok (fun w hw _ _ hs ht => hs.trans (stage_keepsFilter ht (List.filterMap_eq_nil_iff.mp hafter w hw)))
      (.refl p₂) h
  exact ⟨cs, hcs, fun hempty => hkeeps.filter.trans (hnone hempty), fun hsome => hkeeps.isFilteredBy (hfiltered hsome)⟩

/-- A filter stands in the statement of its pipeline. -/
theorem statement_where {p : Pipeline} {f : Fragment} (h : p.filter = some f) (schema : Schema) :
    ∃ rest, (p.statement schema).sql = .text "SELECT " :: Sql.joinFragments ", " p.selectList ++
      .text " FROM " :: .name schema.className :: .text " WHERE " :: f ++ rest := by
  refine ⟨clauseOf " GROUP BY " p.groupList ++ clauseOf " ORDER BY " p.order ++ p.limit ++ p.offset, ?_⟩
  have hclause : clauseOf " WHERE " p.filter.toList = .text " WHERE " :: f := by rw [h]; rfl
  rw [statement_sql, hclause]
  simp only [List.append_assoc, List.cons_append]

theorem together_eq_yes {row : Row} : together filter (cs.map (Condition.truth row)) = .yes ↔
    if (alternatives? filter).isSome then ∃ c ∈ cs, c.truth row = .yes else ∀ c ∈ cs, c.truth row = .yes := by
  unfold together
  split
  · simp only [Truth.any_eq_yes, List.mem_map, exists_exists_and_eq_and]
  · rw [Truth.all_eq_yes, List.forall_mem_map]

/-- A pipeline with one filter keeps exactly the constraints that the filter asks for and that say anything: their
conditions stand in its statement, and the rows that it selects are those that meet all of them, or one of them where
the filter has alternatives. If one of them is no condition the pipeline is refused. -/
theorem filter_constraints {stages : List Json} (hstages : stages.filterMap filterOf? = [filter]) :
    (∀ {key value f}, Asks filter key value → condition schema key value = .error f →
      ∃ f', compile schema stages = .error f') ∧
    ∀ {p}, compile schema stages = .ok p → ∃ cs : List Condition,
      (∀ {key value}, Asks filter key value → constrains schema key value = true →
        ∃ c ∈ cs, condition schema key value = .ok (some c)) ∧
      (∀ c ∈ cs, ∃ key value, Asks filter key value ∧ condition schema key value = .ok (some c)) ∧
      (cs = [] → p.filter = none) ∧
      (cs ≠ [] →
        (∃ next rest, (p.statement schema).sql = .text "SELECT " :: Sql.joinFragments ", " p.selectList ++
          .text " FROM " :: .name schema.className :: .text " WHERE " ::
            (Template.join (if (alternatives? filter).isSome then " OR " else " AND ")
              (cs.map Condition.template)).number next ++ rest) ∧
        ∀ row, p.truth row = .yes ↔
          if (alternatives? filter).isSome then ∃ c ∈ cs, c.truth row = .yes else ∀ c ∈ cs, c.truth row = .yes) := by
  constructor
  · intro key value f hasks herror
    cases hp : compile schema stages with
    | error f' => exact ⟨f', rfl⟩
    | ok p =>
        obtain ⟨cs, hcs, -⟩ := compile_isFilteredBy hp hstages
        obtain ⟨c, hc⟩ := condition_of_mem hcs (asks_iff.mp hasks)
        cases hc.symm.trans herror
  · intro p hp
    obtain ⟨cs, hcs, hnone, hfiltered⟩ := compile_isFilteredBy hp hstages
    refine ⟨cs, fun {key value} hasks hconstrains => ?_, fun c hmem => ?_, hnone, fun hsome => ⟨?_, fun row => ?_⟩⟩
    · have he := asks_iff.mp hasks
      obtain ⟨c, hc⟩ := condition_of_mem hcs he
      obtain ⟨d, rfl⟩ := Option.isSome_iff_exists.mp ((condition_isSome hc).trans hconstrains)
      exact ⟨d, (mem_conditionsOf hcs).mpr ⟨key, value, he, hc⟩, hc⟩
    · obtain ⟨key, value, he, hc⟩ := (mem_conditionsOf hcs).mp hmem
      exact ⟨key, value, asks_iff.mpr he, hc⟩
    · obtain ⟨next, hfilter, -⟩ := hfiltered hsome
      obtain ⟨rest, hsql⟩ := statement_where hfilter schema
      rw [joiner_eq] at hsql
      exact ⟨next, rest, hsql⟩
    · have hfresh : Template.Fresh (Template.join (filterEntries filter).2 (cs.map Condition.template)) :=
        (join_constraints ((constraintsOf_eq schema _).trans (congrArg _ hcs))).1
      rw [(hfiltered hsome).truth hfresh (conditions_read hcs hsome row), together_eq_yes]

/-- A title, and a comparison of a field that is not declared. -/
def titleAndMore : Document := [("title", .string "a"), ("other", .object [("$gt", .int 1)])]

/-- The same as alternatives, beside a value of a field that is not declared. -/
def titleOrMore : Document :=
  [("$or", .array [.object [("title", .string "a")], .object [("other", .object [("$gt", .int 1)])],
    .object [("more", .int 2)]])]

theorem filter_constraints_titleAndMore :
    (∃ p, compile titledPosts [.object [("$match", .object titleAndMore)], .object [("$limit", .int 2)]] = .ok p ∧
      (p.statement titledPosts).text = "SELECT * FROM \"Post\" WHERE \"title\" = $1 AND (\"other\" > $2) LIMIT $3" ∧
      ∀ row, p.truth row = .yes →
        (Condition.test (.equals (.column "title") (.string "a"))).truth row = .yes ∧
        (Condition.allOf [[.test (.compares (.column "other") .greater (.integer 1))]]).truth row = .yes) ∧
    ∃ p, compile titledPosts [.object [("$match", .object titleOrMore)]] = .ok p ∧
      (p.statement titledPosts).text = "SELECT * FROM \"Post\" WHERE \"title\" = $1 OR (\"other\" > $2)" ∧
      ∀ row, p.truth row = .yes ↔
        (Condition.test (.equals (.column "title") (.string "a"))).truth row = .yes ∨
        (Condition.allOf [[.test (.compares (.column "other") .greater (.integer 1))]]).truth row = .yes := by
  constructor
  · let stages : List Json := [.object [("$match", .object titleAndMore)], .object [("$limit", .int 2)]]
    obtain ⟨p, hp, htext⟩ : ∃ p, compile titledPosts stages = .ok p ∧
        (p.statement titledPosts).text = "SELECT * FROM \"Post\" WHERE \"title\" = $1 AND (\"other\" > $2) LIMIT $3" :=
      ⟨_, rfl, rfl⟩
    have hstages : stages.filterMap filterOf? = [titleAndMore] := rfl
    have hnone : alternatives? titleAndMore = none := rfl
    obtain ⟨cs, hasked, -, -, hrows⟩ := (filter_constraints hstages).2 hp
    obtain ⟨c, hc, hcondition⟩ := hasked (.entry hnone (.head _)) rfl
    obtain ⟨d, hd, hcondition'⟩ := hasked (.entry hnone (.tail _ (.head _))) rfl
    cases hcondition
    cases hcondition'
    obtain ⟨-, htruth⟩ := hrows (List.ne_nil_of_mem hc)
    refine ⟨p, hp, htext, fun row hrow => ?_⟩
    have hall := (htruth row).mp hrow
    rw [hnone] at hall
    exact ⟨hall _ hc, hall _ hd⟩
  · let stages : List Json := [.object [("$match", .object titleOrMore)]]
    obtain ⟨p, hp, htext⟩ : ∃ p, compile titledPosts stages = .ok p ∧
        (p.statement titledPosts).text = "SELECT * FROM \"Post\" WHERE \"title\" = $1 OR (\"other\" > $2)" :=
      ⟨_, rfl, rfl⟩
    have hstages : stages.filterMap filterOf? = [titleOrMore] := rfl
    have hsome : (alternatives? titleOrMore).isSome = true := rfl
    obtain ⟨cs, hasked, hkept, -, hrows⟩ := (filter_constraints hstages).2 hp
    obtain ⟨c, hc, hcondition⟩ := hasked (asks_iff.mpr (.head _)) rfl
    obtain ⟨d, hd, hcondition'⟩ := hasked (asks_iff.mpr (.tail _ (.head _))) rfl
    cases hcondition
    cases hcondition'
    obtain ⟨-, htruth⟩ := hrows (List.ne_nil_of_mem hc)
    refine ⟨p, hp, htext, fun row => ?_⟩
    rw [htruth row, if_pos hsome]
    constructor
    · rintro ⟨c', hc', hrow⟩
      obtain ⟨key, value, hasks, hcondition⟩ := hkept c' hc'
      have he : (key, value) ∈ (filterEntries titleOrMore).1 := asks_iff.mp hasks
      rcases he with _ | ⟨_, _ | ⟨_, _ | ⟨_, ⟨⟩⟩⟩⟩
      · cases hcondition
        exact .inl hrow
      · cases hcondition
        exact .inr hrow
      · cases hcondition
    · rintro (hrow | hrow)
      · exact ⟨_, hc, hrow⟩
      · exact ⟨_, hd, hrow⟩

/-- Of the constraints that alternatives have for one key, the last alone is kept. -/
theorem filter_repeated_key :
    condition titledPosts "title" (.string "a") = .ok (some (.test (.equals (.column "title") (.string "a")))) ∧
    ∃ p, compile titledPosts [.object [("$match", .object [("$or", .array
        [.object [("title", .string "a")], .object [("title", .string "b")]])])]] = .ok p ∧
      (p.statement titledPosts).text = "SELECT * FROM \"Post\" WHERE \"title\" = $1" ∧
      (p.statement titledPosts).values = [.string "b"] :=
  ⟨rfl, _, rfl, rfl, rfl⟩

end Pipeline

end Docstore.Query
