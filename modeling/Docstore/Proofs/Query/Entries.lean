import Docstore.Proofs.Query.Predicates
import Docstore.Proofs.Sql.Statements

/-!
# What the entries of a query contribute

An accepted query is the conjunction of what its entries become one after the other, and every entry that is
a constraint becomes at least one condition.
-/

namespace Docstore

theorem Text.after?_eq_some_iff {start s rest : String} : Text.after? start s = some rest ↔ s = start ++ rest := by
  rw [Text.after?, ← String.toList_inj, String.toList_append]
  split
  next hstart =>
    obtain ⟨cs, hcs⟩ := List.isPrefixOf_iff_prefix.mp hstart
    rw [← hcs, List.drop_left, Option.some_inj, List.append_cancel_left_eq, ← String.toList_inj, String.toList_ofList]
  next hstart =>
    refine iff_of_false (by simp) fun h => hstart (List.isPrefixOf_iff_prefix.mpr ?_)
    exact h ▸ List.prefix_append _ _

namespace Query

open Docstore.Sql (Bindings Template joinFragments render)

/-! ## Entries that are no constraint -/

/-- Auth data of a provider, or the wish that a field is absent that the schema does not know. -/
def IsExempt (schema : Schema) (key : String) (value : Json) : Prop :=
  (∃ provider, provider ≠ "" ∧ key = authDataMark ++ provider) ∨
    schema.fieldType? key = none ∧ value.get? "$exists" = some (.bool false)

theorem isAuthDataKey_iff (key : String) :
    isAuthDataKey key = true ↔ ∃ provider, provider ≠ "" ∧ key = authDataMark ++ provider := by
  rw [isAuthDataKey, Option.any_eq_true]
  simp [Text.after?_eq_some_iff, and_comm]

theorem wantsAbsence_iff (value : Json) :
    wantsAbsence value = true ↔ value.get? "$exists" = some (.bool false) := by
  unfold wantsAbsence
  split
  · rename_i h
    simp [h]
  · rename_i h
    simpa using h

theorem isSkipped_iff (schema : Schema) (key : String) (value : Json) :
    isSkipped schema key value = true ↔ IsExempt schema key value := by
  rw [isSkipped, Bool.or_eq_true, Bool.and_eq_true, isAuthDataKey_iff, wantsAbsence_iff,
    Option.isNone_iff_eq_none, IsExempt]

/-- A query that asks for nothing of the rows that are there. -/
def IsUnconstrained (schema : Schema) (q : Document) : Prop := ∀ e ∈ q, IsExempt schema e.1 e.2

def constraints (schema : Schema) (q : Document) : Document :=
  q.filter fun e => !isSkipped schema e.1 e.2

theorem constraints_eq_nil {schema : Schema} {q : Document} :
    constraints schema q = [] ↔ IsUnconstrained schema q := by
  simp only [IsUnconstrained, constraints, List.filter_eq_nil_iff, Bool.not_eq_true', Bool.not_eq_false,
    isSkipped_iff]

/-! ## The conditions of entries -/

theorem required_ne_nil {key : String} {value : Json} {r : Clauses} {cs : List Condition}
    (h : required key value r = .ok cs) : cs ≠ [] := by
  unfold required at h
  split at h
  · cases h
  · rename_i hr
    rintro rfl
    exact hr h

theorem compileEntry_of_not_logical (c : Context) {key : String} (h : isLogical key = false)
    (v : Json) : compileEntry c key v = required key v (fieldClauses c key v) := by
  cases v <;> simp [compileEntry, h]

theorem compileEntry_ne_nil {c : Context} {key : String} {value : Json} {cs : List Condition}
    (h : compileEntry c key value = .ok cs) : cs ≠ [] := by
  cases value with
  | array items =>
      rw [compileEntry] at h
      split at h
      · split at h
        · cases h
          simp
        · cases h
      · exact required_ne_nil h
  | _ =>
      simp only [compileEntry] at h
      split at h
      · cases h
      · exact required_ne_nil h

/-- The conditions of a query are those of its constraints, one after the other. -/
theorem compile_ok {c : Context} {q : Document} {cs : List Condition} (h : compile c q = .ok cs) :
    ∃ parts : List (List Condition),
      (constraints c.schema q).map (fun e => compileEntry c e.1 e.2) = parts.map .ok ∧
        cs = parts.flatten := by
  induction q generalizing cs with
  | nil =>
      cases h
      exact ⟨[], rfl, rfl⟩
  | cons e rest ih =>
      obtain ⟨key, value⟩ := e
      rw [compile] at h
      split at h
      · rename_i hs
        obtain ⟨parts, hparts, rfl⟩ := ih h
        exact ⟨parts, by simpa [constraints, hs] using hparts, rfl⟩
      · rename_i hs
        obtain ⟨as, bs, ha, hb, rfl⟩ := Clauses.append_ok h
        obtain ⟨parts, hparts, rfl⟩ := ih hb
        refine ⟨as :: parts, ?_, by simp⟩
        simpa [constraints, hs, ha] using hparts

theorem compileMembers_ok {c : Context} {key : String} {items : List Json}
    {css : List (List Condition)} (h : compileMembers c key items = .ok css) :
    ∃ qs : List Document, items = qs.map .object ∧ qs.map (compile c) = css.map .ok := by
  induction items generalizing css with
  | nil =>
      cases h
      exact ⟨[], rfl, rfl⟩
  | cons item rest ih =>
      cases item with
      | object fields =>
          rw [compileMembers] at h
          split at h
          · rename_i cs hcs
            obtain ⟨dss, hdss, rfl⟩ := after_ok h
            obtain ⟨qs, rfl, hqs⟩ := ih hdss
            exact ⟨fields :: qs, rfl, by simp [hcs, hqs]⟩
          · cases h
      | _ => cases h

/-! ## Clauses -/

namespace Condition

theorem values_eq_flatMap (cs : List Condition) :
    values cs = (testsOfAll cs).flatMap (·.template.values) := values_conjunction cs

theorem values_append (cs ds : List Condition) : values (cs ++ ds) = values cs ++ values ds := by
  rw [values_eq_flatMap, testsOfAll_append, List.flatMap_append, ← values_eq_flatMap,
    ← values_eq_flatMap]

theorem values_flatten (css : List (List Condition)) : values css.flatten = css.flatMap values := by
  induction css with
  | nil => rfl
  | cons cs css ih => rw [List.flatten_cons, values_append, ih, List.flatMap_cons]

theorem values_combine (op : String) (css : List (List Condition)) :
    values [combine op css] = css.flatMap values := by
  have hmembers : (testsOfMembers css).flatMap (·.template.values) = css.flatMap values := by
    induction css with
    | nil => rfl
    | cons cs css ih =>
        rw [testsOfMembers_cons, List.flatMap_append, ih, List.flatMap_cons, values_eq_flatMap]
  rw [values_eq_flatMap, testsOfAll_cons, testsOfAll_nil, List.append_nil, ← hmembers]
  cases css with
  | nil => cases h : decide (op ≠ "$or") <;> simp [combine, h, Test.template]
  | cons cs css =>
      simp only [combine]
      split
      · rfl
      · split <;> rfl

/-- The clauses of conditions, each with its number of values bound before it. -/
def clauses (b : Bindings) (cs : List Condition) : List Sql.Fragment :=
  (b.writeAll (cs.map template)).1

theorem conjunction_eq_join (cs : List Condition) :
    conjunction cs = Template.join " AND " (cs.map template) := by
  induction cs with
  | nil => rfl
  | cons c cs ih =>
      cases cs with
      | nil => rfl
      | cons d ds =>
          rw [conjunction, ih]
          rfl

theorem clauses_cons (b : Bindings) (c : Condition) (cs : List Condition) :
    clauses b (c :: cs) = c.template.number b.next :: clauses (b.append c.template.values) cs := by
  rw [clauses, List.map_cons, Bindings.writeAll_cons]
  rfl

theorem clauses_append (b : Bindings) (cs ds : List Condition) :
    clauses b (cs ++ ds) = clauses b cs ++ clauses (b.append (values cs)) ds := by
  rw [values, conjunction_eq_join, Template.values_join, clauses, List.map_append,
    Bindings.writeAll_append]
  rfl

def member : List Condition → Template
  | [] => Sql.words "TRUE"
  | c :: cs => conjunction (c :: cs)

theorem templates_eq_join (sep : String) (css : List (List Condition)) :
    templates sep css = Template.join sep (css.map member) := by
  match css with
  | [] => rfl
  | [cs] => cases cs <;> rfl
  | cs :: ds :: rest =>
      have ih := templates_eq_join sep (ds :: rest)
      calc templates sep (cs :: ds :: rest)
          = member cs ++ Sql.words sep ++ templates sep (ds :: rest) := by
            rw [templates.eq_def]
            cases cs <;> rfl
        _ = Template.join sep ((cs :: ds :: rest).map member) := by
            rw [ih]
            rfl

theorem number_conjunction (b : Bindings) (cs : List Condition) :
    (conjunction cs).number b.next = joinFragments " AND " (clauses b cs) := by
  rw [conjunction_eq_join, clauses, Bindings.joinFragments_writeAll]

end Condition

/-! ## The constraints of a predicate -/

theorem flatten_eq_nil_of_entries {c : Context} {q : Document} {parts : List (List Condition)}
    (h : q.map (fun e => compileEntry c e.1 e.2) = parts.map .ok) :
    (∀ part ∈ parts, part ≠ []) ∧ (parts.flatten = [] ↔ q = []) := by
  have hne : ∀ part ∈ parts, part ≠ [] := by
    intro part hpart
    have hm : Except.ok part ∈ q.map fun e => compileEntry c e.1 e.2 :=
      h ▸ List.mem_map_of_mem hpart
    obtain ⟨e, -, he⟩ := List.mem_map.mp hm
    exact compileEntry_ne_nil he
  refine ⟨hne, ?_⟩
  cases q with
  | nil =>
      cases parts with
      | nil => simp
      | cons part parts => cases h
  | cons e q =>
      cases parts with
      | nil => cases h
      | cons part parts => simp [hne part (.head _)]

/-- What an accepted query's predicate is made of, and when that is nothing. -/
theorem predicate_parts {c : Context} {q : Document} {b b' : Bindings} {p : Predicate}
    (h : predicate c q b = (.ok p, b')) :
    ∃ parts : List (List Condition),
      (constraints c.schema q).map (fun e => compileEntry c e.1 e.2) = parts.map .ok ∧
      (∀ part ∈ parts, part ≠ []) ∧
      p.sql = joinFragments " AND " (Condition.clauses b parts.flatten) ∧
      (render p.sql = "" ↔ IsUnconstrained c.schema q) := by
  obtain ⟨cs, -, hcs, rfl, -⟩ := predicate_ok h
  obtain ⟨parts, hparts, rfl⟩ := compile_ok hcs
  obtain ⟨hne, hnil⟩ := flatten_eq_nil_of_entries hparts
  refine ⟨parts, hparts, hne, Condition.number_conjunction b _, ?_⟩
  rw [← constraints_eq_nil, ← hnil]
  exact Condition.render_conjunction_eq b.next

/-! ## Clauses one after the other -/

namespace Clauses

theorem none_append (r : Clauses) : append none r = r := by
  cases r <;> rfl

theorem append_none (r : Clauses) : append r none = r := by
  cases r with
  | ok cs => simp [append, none, after]
  | error e => rfl

theorem append_assoc (r s t : Clauses) : append (append r s) t = append r (append s t) := by
  cases r with
  | error e => rfl
  | ok cs =>
      cases s with
      | error e => rfl
      | ok ds =>
          cases t with
          | error e => simp [append, after, Condition.values_append]
          | ok es => simp [append, after]

end Clauses

theorem compile_append (c : Context) (q r : Document) :
    compile c (q ++ r) = Clauses.append (compile c q) (compile c r) := by
  induction q with
  | nil => exact (Clauses.none_append _).symm
  | cons e q ih =>
      obtain ⟨key, value⟩ := e
      rw [List.cons_append, compile, compile, ih]
      split
      · rfl
      · exact (Clauses.append_assoc _ _ _).symm

theorem validateQuery_append {q r : Document} (h : validateQuery (q ++ r) = .ok ()) :
    validateQuery q = .ok () ∧ validateQuery r = .ok () := by
  induction q with
  | nil => exact ⟨rfl, h⟩
  | cons e q ih =>
      obtain ⟨key, value⟩ := e
      rw [List.cons_append, validateQuery] at h
      split at h
      · cases h
      · rename_i hv
        obtain ⟨hq, hr⟩ := ih h
        refine ⟨?_, hr⟩
        rw [validateQuery, hv]
        exact hq

theorem validateMembers_objects {key : String} {qs : List Document}
    (h : validateMembers key (qs.map .object) = .ok ()) : ∀ q ∈ qs, validateQuery q = .ok () := by
  induction qs with
  | nil => exact fun q hq => nomatch hq
  | cons q qs ih =>
      rw [List.map_cons, validateMembers] at h
      split at h
      · cases h
      · rename_i hq
        exact List.forall_mem_cons.mpr ⟨hq, ih h⟩

/-! ## Queries one after the other -/

/-- Compiles queries in turn, each numbered behind the ones before. -/
def predicates (c : Context) : List Document → Bindings → Except Fault (List Predicate) × Bindings
  | [], b => (.ok [], b)
  | q :: qs, b =>
    match predicate c q b with
    | (.ok p, b) =>
      match predicates c qs b with
      | (.ok ps, b) => (.ok (p :: ps), b)
      | (.error f, b) => (.error f, b)
    | (.error f, b) => (.error f, b)

def numbered (b : Bindings) : List (List Condition) → List Predicate
  | [] => []
  | cs :: css => Predicate.number b.next cs :: numbered (b.append (Condition.values cs)) css

theorem predicates_of_ok {c : Context} {qs : List Document} {css : List (List Condition)}
    (hv : ∀ q ∈ qs, validateQuery q = .ok ()) (hc : qs.map (compile c) = css.map .ok)
    (b : Bindings) :
    predicates c qs b = (.ok (numbered b css), b.append (css.flatMap Condition.values)) := by
  induction qs generalizing css b with
  | nil =>
      cases css with
      | nil => simp [predicates, numbered, Bindings.append]
      | cons cs css => cases hc
  | cons q qs ih =>
      cases css with
      | nil => cases hc
      | cons cs css =>
          obtain ⟨hq, hqs⟩ := List.cons.inj hc
          have hrest := ih (fun r hr => hv r (.tail _ hr)) hqs (b.append (Condition.values cs))
          rw [predicates, predicate_of_ok (hv q (.head _)) hq]
          simp only [hrest, numbered, Bindings.append_append, List.flatMap_cons]

namespace Condition

theorem conjunction_append {cs ds : List Condition} (hcs : cs ≠ []) (hds : ds ≠ []) :
    conjunction (cs ++ ds) = conjunction cs ++ Sql.words " AND " ++ conjunction ds := by
  match cs, ds with
  | [c], d :: ds => rfl
  | c :: e :: cs, d :: ds =>
      have ih := conjunction_append (List.cons_ne_nil e cs) (List.cons_ne_nil d ds)
      rw [List.cons_append, List.cons_append, conjunction, ← List.cons_append, ih, conjunction]
      simp only [List.append_assoc]

theorem conjunction_flatten {css : List (List Condition)} (h : ∀ cs ∈ css, cs ≠ []) :
    conjunction css.flatten = Template.join " AND " (css.map conjunction) := by
  match css with
  | [] => rfl
  | [cs] => simp [Template.join]
  | cs :: ds :: css =>
      have ih := @conjunction_flatten (ds :: css) fun es hes => h es (.tail _ hes)
      have hds : (ds :: css).flatten ≠ [] := by
        have hd := h ds (.tail _ (.head _))
        simp [hd]
      rw [List.flatten_cons, conjunction_append (h cs (.head _)) hds, ih]
      rfl

theorem nears_add (n bound : Nat) (ts : List Test) :
    nears (n + bound) ts = (nears bound ts).map fun p => (n + p.1, p.2) := by
  induction ts generalizing bound with
  | nil => rfl
  | cons t ts ih =>
      rw [nears, nears, List.map_append, Nat.add_assoc, ih]
      cases t.near? <;> rfl

theorem nears_append (bound : Nat) (ts us : List Test) :
    nears bound (ts ++ us) =
      nears bound ts ++ nears (bound + (ts.flatMap (·.template.values)).length) us := by
  induction ts generalizing bound with
  | nil => rfl
  | cons t ts ih =>
      rw [List.cons_append, nears, nears, ih, List.flatMap_cons, List.length_append, Nat.add_assoc,
        List.append_assoc]

theorem orders_append (first : Nat) (cs ds : List Condition) :
    orders first (cs ++ ds) = orders first cs ++ orders (first + (values cs).length) ds := by
  rw [orders, testsOfAll_append, nears_append, List.map_append, Nat.zero_add, ← values_eq_flatMap,
    ← Nat.add_zero (values cs).length, nears_add, List.map_map]
  simp only [orders, Function.comp_def, Nat.add_assoc, Nat.add_zero]

end Condition

theorem sql_numbered (b : Bindings) (css : List (List Condition)) :
    (numbered b css).map (·.sql) = (b.writeAll (css.map Condition.conjunction)).1 := by
  induction css generalizing b with
  | nil => rfl
  | cons cs css ih =>
      rw [numbered, List.map_cons, ih, List.map_cons, Bindings.writeAll_cons]
      rfl

/-- Conjunctions that are not empty are joined as their predicates are. -/
theorem number_flatten {css : List (List Condition)} (h : ∀ cs ∈ css, cs ≠ []) (b : Bindings) :
    (Predicate.number b.next css.flatten).sql =
        joinFragments " AND " ((numbered b css).map (·.sql)) ∧
      (Predicate.number b.next css.flatten).orders = (numbered b css).flatMap (·.orders) := by
  constructor
  · rw [sql_numbered, Bindings.joinFragments_writeAll, ← Condition.conjunction_flatten h]
    rfl
  · clear h
    induction css generalizing b with
    | nil => rfl
    | cons cs css ih =>
        rw [numbered, List.flatMap_cons, ← ih, Bindings.next_append]
        exact Condition.orders_append _ _ _

end Query

end Docstore
