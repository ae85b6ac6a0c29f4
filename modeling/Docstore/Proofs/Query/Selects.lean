import Docstore.Proofs.Query.Predicates
import Docstore.Proofs.Results
import Docstore.Proofs.Sql.Statements
import Docstore.Query.Select

/-!
# Statements around predicates

The statements that find, count and delete rows are exact: the predicate's values come first, then those
of the columns and of the counts of rows, and every part of the text uses its own.
-/

namespace Docstore.Query

open Docstore.Sql (Bindings Fragment IsPlain StartsApart Statement Template placeholders)

/-! ## Operands on their own -/

namespace Operand

theorem json_clean (key : String) :
    Template.Clean (IsNameOf fun _ => True) (IsStepOf fun _ => True) (Operand.json key).template :=
  ⟨template_wellFormed trivial, again_not_mem_template _⟩

end Operand

/-! ## Parts of statements -/

namespace Predicate

variable {keys : String → Prop} {first count : Nat} {p : Predicate}

theorem IsOver.whereClause_trailing (h : p.IsOver keys first count) :
    Fragment.Trailing p.whereClause := by
  unfold whereClause
  split
  · exact .nil
  · exact .text (by decide) (by decide) h.wellFormed.readable

theorem IsOver.mem_placeholders_whereClause (h : p.IsOver keys first count) (k : Nat) :
    k ∈ Sql.placeholders p.whereClause ↔ first ≤ k ∧ k < first + count := by
  have hp : Sql.placeholders p.whereClause = Sql.placeholders p.sql := by
    unfold whereClause isEmpty
    split
    · rename_i he
      rw [List.isEmpty_iff.mp he]
    · rfl
  rw [hp, h.placeholders, List.mem_range'_1]

end Predicate

theorem clauseOf_trailing {start : String} (hs : IsPlain start) (hapart : StartsApart start)
    {items : List Fragment} (h : ∀ f ∈ items, f.Readable) :
    Fragment.Trailing (clauseOf start items) := by
  unfold clauseOf
  split
  · exact .nil
  · exact .text hs hapart (Sql.readable_joinFragments (by decide) (by decide) items h)

theorem placeholders_clauseOf (start : String) (items : List Fragment) :
    placeholders (clauseOf start items) = items.flatMap placeholders := by
  unfold clauseOf
  split
  · rename_i h
    rw [List.isEmpty_iff.mp h]
    rfl
  · rw [Sql.placeholders_text, Sql.placeholders_joinFragments]

theorem countClause_trailing {start : String} (hs : IsPlain start) (hapart : StartsApart start)
    (n : Option Int) : Template.Trailing (countClause start n) := by
  cases n with
  | none => exact .nil
  | some n =>
      have hv : Template.Fresh (Sql.value (.integer n)) := .value _
      exact .words (hv.words_append hs).exact hapart

/-! ## Columns and orders -/

theorem named_exact (name : String) : Template.Exact (Sql.named name) where
  readable := fun _ => ⟨trivial, trivial, trivial⟩
  mem_placeholders := by
    intro next k
    simp [Sql.named, Template.number]

theorem TextSearch.rank_exact (search : TextSearch) : Template.Exact search.rank := by
  have hd : Template.WellFormed (IsNameOf fun _ => True) (IsStepOf fun _ => True) search.document :=
    TextSearch.document_wellFormed trivial
  have hq : Template.WellFormed (IsNameOf fun _ => True) (IsStepOf fun _ => True) search.query :=
    TextSearch.query_wellFormed search
  have hn : IsNameOf (fun _ => True) "score" := ⟨"score", trivial, .inl rfl⟩
  have hc : Template.Clean (IsNameOf fun _ => True) (IsStepOf fun _ => True) search.rank := by
    constructor
    · intro next
      simp +decide [rank, Sql.words, Sql.named, Template.number, Template.number_append, hd _, hq _, hn]
    · simp [rank, document, query, configuration, Sql.words, Sql.named, Sql.boundText, Sql.value,
        Operand.again_not_mem_template]
  exact hc.exact

theorem keyColumns_exact {schema : Schema} {search : Option TextSearch} {key : String}
    {ts : List Template} (h : keyColumns schema search key = .ok ts) : ∀ t ∈ ts, t.Exact := by
  unfold keyColumns at h
  split at h
  · cases h
    simp [named_exact]
  split at h
  · cases h
    intro t ht
    obtain ⟨s, -, rfl⟩ := Option.map_eq_some_iff.mp (Option.mem_toList.mp ht)
    exact s.rank_exact
  split at h
  · cases h
    simp
  split at h
  · obtain ⟨-, -, rfl⟩ := Result.map_ok h
    simp [named_exact]
  · cases h
    simp

theorem selectColumns_exact {schema : Schema} {search : Option TextSearch} {keys : List String}
    {ts : List Template} (h : selectColumns schema search keys = .ok ts) : ∀ t ∈ ts, t.Exact := by
  obtain ⟨tss, htss, rfl⟩ := Result.map_ok h
  intro t ht
  obtain ⟨us, hus, ht⟩ := List.mem_flatten.mp ht
  obtain ⟨key, -, hkey⟩ := Result.mem_of_mapM_ok htss hus
  exact keyColumns_exact hkey t ht

/-- Items of an order bind nothing. -/
theorem sortItem_ok {item : String × Int} {f : Fragment} (h : sortItem item = .ok f) :
    f.Readable ∧ placeholders f = [] := by
  obtain ⟨-, -, rfl⟩ := Result.map_ok h
  have hx := Operand.json_clean item.1
  have hv : Template.values (Operand.json item.1).template = [] := Operand.values_template _
  have hp := hx.placeholders 1
  rw [hv] at hp
  have hr := (hx.1 1).readable
  split <;> simp +decide [Template.number_append, Sql.words, Template.number, hp, hr]

/-- The order of rows repeats placeholders of the predicate or has none. -/
theorem orderBy_ok {keys : String → Prop} {first count : Nat} {p : Predicate}
    (hp : p.IsOver keys first count) {sort : Fields Int} {order : List Fragment}
    (h : orderBy p.orders sort = .ok order) :
    ∀ f ∈ order, f.Readable ∧ ∀ k ∈ placeholders f, first ≤ k ∧ k < first + count := by
  unfold orderBy at h
  split at h
  · intro f hf
    obtain ⟨item, -, hitem⟩ := Result.mem_of_mapM_ok h hf
    obtain ⟨hr, hn⟩ := sortItem_ok hitem
    exact ⟨hr, by simp [hn]⟩
  · cases h
    intro f hf
    obtain ⟨hw, hk⟩ := hp.orders f hf
    exact ⟨hw.readable, fun k hm => List.mem_range'_1.mp (hk k hm)⟩

/-! ## Statements -/

theorem readable_orAll {columns : List Fragment} (h : ∀ f ∈ columns, f.Readable) :
    ∀ f ∈ orAll columns, f.Readable := by
  unfold orAll
  split
  · intro f hf
    rw [List.mem_singleton.mp hf]
    exact ⟨by decide, trivial⟩
  · exact h

theorem flatMap_orAll (columns : List Fragment) :
    (orAll columns).flatMap placeholders = columns.flatMap placeholders := by
  unfold orAll
  split
  · rename_i h
    rw [List.isEmpty_iff.mp h]
    rfl
  · rfl

/-- A selection is exact: its columns are numbered after the predicate, its counts of rows after both. -/
theorem selection_exact {keys : String → Prop} {p : Predicate} {vs : List Value}
    (hp : p.IsOver keys 1 vs.length) {start className : String} (hstart : IsPlain start)
    {columns : List Template} (hcolumns : ∀ t ∈ columns, t.Exact) {order : List Fragment}
    (horder : ∀ f ∈ order, f.Readable ∧ ∀ k ∈ placeholders f, 1 ≤ k ∧ k < 1 + vs.length)
    {limit offset : Template} (hlimit : limit.Trailing) (hoffset : offset.Trailing) {b c d : Bindings}
    (hb : b = ((Bindings.empty.append vs).writeAll columns).2) (hc : c = (b.write limit).2)
    (hd : d = (c.write offset).2) :
    Statement.Exact ⟨.text start ::
      Sql.joinFragments ", " (orAll ((Bindings.empty.append vs).writeAll columns).1) ++
        sqlText " FROM " ++ sqlName className ++ p.whereClause ++ clauseOf " ORDER BY " order ++
        (b.write limit).1 ++ (c.write offset).1, d.values⟩ := by
  subst hb hc hd
  refine Fragment.Readable.exact ?_ fun k => ?_
  · have hcs : (Sql.joinFragments ", "
        (orAll ((Bindings.empty.append vs).writeAll columns).1)).Readable :=
      Sql.readable_joinFragments (by decide) (by decide) _
        (readable_orAll fun f hf => Bindings.readable_writeAll hcolumns hf)
    have ho : Fragment.Trailing (clauseOf " ORDER BY " order) :=
      clauseOf_trailing (by decide) (by decide) fun f hf => (horder f hf).1
    refine .append (.append (.append (.append ?_ hp.whereClause_trailing) ho) ?_) ?_
    · simp +decide [sqlText, sqlName, hstart, hcs]
    · exact hlimit.numbered _
    · exact hoffset.numbered _
  · have ho : k ∈ order.flatMap placeholders → 1 ≤ k ∧ k < 1 + vs.length := by
      intro hk
      obtain ⟨f, hf, hk⟩ := List.mem_flatMap.mp hk
      exact (horder f hf).2 k hk
    simp only [sqlText, sqlName, Bindings.write, Sql.placeholders_append, Sql.placeholders_text,
      Sql.placeholders_name, Sql.placeholders_nil, Sql.placeholders_joinFragments, flatMap_orAll,
      placeholders_clauseOf, List.mem_append, List.append_nil,
      Bindings.mem_placeholders_writeAll hcolumns, hp.mem_placeholders_whereClause,
      hlimit.mem_placeholders, hoffset.mem_placeholders, Bindings.writeAll_snd, Bindings.next_append,
      Bindings.next_empty, Bindings.values_append, List.length_append]
    by_cases hk : k ∈ order.flatMap placeholders
    · have hk' := ho hk
      simp only [hk, or_true, true_or, true_iff, Bindings.values_empty, List.length_nil]
      omega
    · simp only [hk, or_false, Bindings.values_empty, List.length_nil]
      omega

theorem find_exact {schema : Schema} {now : Time.Instant} {query : Document} {options : FindOptions}
    {s : Statement} (h : find schema now query options = .ok s) : s.Exact := by
  unfold find at h
  generalize hr : predicate ⟨schema, options.ignoreCase, now⟩ query .empty = r at h
  obtain ⟨r, b⟩ := r
  obtain ⟨p, hp, h⟩ := Result.bind_ok h
  obtain ⟨ts, hts, h⟩ := Result.bind_ok h
  obtain ⟨order, ho, h⟩ := Result.bind_ok h
  cases h
  subst hp
  obtain ⟨vs, rfl, hp⟩ := predicate_isOver hr
  refine selection_exact hp ?_ (selectColumns_exact hts) (orderBy_ok hp ho) ?_ ?_ rfl rfl rfl
  · cases options.explain <;> decide
  · exact countClause_trailing (by decide) (by decide) _
  · exact countClause_trailing (by decide) (by decide) _

/-- A statement that has nothing to bind but its predicate's values. -/
theorem aroundPredicate_exact {schema : Schema} {now : Time.Instant} {query : Document}
    {sql : Fragment → Fragment} {s : Statement} (h : aroundPredicate schema now query sql = .ok s)
    (hf : ∀ f : Fragment, f.Trailing → (sql f).Readable)
    (hn : ∀ f, placeholders (sql f) = placeholders f) : s.Exact := by
  unfold aroundPredicate at h
  split at h
  · rename_i p b hr
    cases h
    obtain ⟨vs, rfl, hp⟩ := predicate_isOver hr
    refine (hf _ hp.whereClause_trailing).exact fun k => ?_
    rw [hn, hp.mem_placeholders_whereClause, Bindings.next_empty, Bindings.values_append,
      Bindings.values_empty, List.nil_append]
    omega
  · cases h

theorem count_exact {schema : Schema} {now : Time.Instant} {query : Document} {s : Statement}
    (h : count schema now query = .ok s) : s.Exact := by
  refine aroundPredicate_exact h (fun f hf => ?_) fun f => rfl
  exact .append (by simp +decide [sqlText, sqlName]) hf

/-- What a distinct search returns is a readable operand without values. -/
theorem distinctOperand_readable (schema : Schema) (field : String) :
    Fragment.Readable ((distinctOperand schema field).number 1) ∧
      placeholders ((distinctOperand schema field).number 1) = [] := by
  unfold distinctOperand
  split
  · have hx := Operand.json_clean field
    refine ⟨(hx.1 1).readable, ?_⟩
    rw [hx.placeholders, Operand.values_template]
    rfl
  split
  · split
    · simp +decide [Sql.words, Sql.named, Template.number]
    split
    · simp +decide [Sql.words, Sql.named, Template.number]
    · simp [Sql.named, Template.number]
  · simp [Sql.named, Template.number]

theorem distinct_exact {schema : Schema} {now : Time.Instant} {field : String} {query : Document}
    {s : Statement} (h : distinct schema now field query = .ok s) : s.Exact := by
  obtain ⟨-, -, h⟩ := Result.bind_ok h
  obtain ⟨hr, hp⟩ := distinctOperand_readable schema field
  refine aroundPredicate_exact h (fun f hf => ?_) fun f => ?_
  · refine .append ?_ hf
    simp +decide [sqlText, sqlName, hr]
  · simp [sqlText, sqlName, hp]

theorem delete_exact {schema : Schema} {now : Time.Instant} {query : Document} {s : Statement}
    (h : delete schema now query = .ok s) : s.Exact := by
  refine aroundPredicate_exact h (fun f hf => ?_) fun f => ?_
  · refine .append (.append (by simp +decide [sqlText, sqlName]) hf) ?_
    exact .text (by decide) (by decide) trivial
  · simp [sqlText, sqlName]

end Docstore.Query
