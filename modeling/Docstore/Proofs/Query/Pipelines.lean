import Docstore.Proofs.Query.Selects
import Docstore.Query.Pipeline
import Mathlib.Data.List.Nodup
import Mathlib.Data.List.Perm.Subperm

/-!
# Values of pipelines

A stage binds its values when it is read, and a later stage of its kind replaces its clause, not its
values. What is kept from stage to stage is that the clauses use each its own placeholders (`Counted`);
so a pipeline's statement is exact just if no clause that bound a value was replaced
(`statement_exact_iff`).
-/

namespace Docstore.Query

open Docstore.Sql (Bindings Fragment IsPlain StartsApart Statement Template placeholders)

/-! ## Texts without values -/

/-- A key whose part of a time is one of the known ones. -/
def GroupKey.IsKnown : GroupKey → Prop
  | column _ => True
  | datePart part _ => part ∈ dateParts.map Prod.snd

/-- A column whose function and key are known ones. -/
def Output.IsKnown : Output → Prop
  | field _ => True
  | key k _ => k.IsKnown
  | accumulate function _ _ => function ∈ accumulators.map Prod.snd
  | count _ => True

/-- The parts and the functions are words of letters. -/
theorem isPlain_part {part : String} (h : part ∈ dateParts.map Prod.snd) :
    IsPlain ("EXTRACT(" ++ part ++ " FROM ") := by
  have hall : ∀ s ∈ dateParts.map Prod.snd, IsPlain ("EXTRACT(" ++ s ++ " FROM ") := by decide
  exact hall part h

theorem isPlain_function {function : String} (h : function ∈ accumulators.map Prod.snd) :
    IsPlain (function ++ "(") := by
  have hall : ∀ s ∈ accumulators.map Prod.snd, IsPlain (s ++ "(") := by decide
  exact hall function h

theorem GroupKey.template_silent {k : GroupKey} (h : k.IsKnown) (next : Nat) :
    Fragment.Readable (k.template.number next) ∧ placeholders (k.template.number next) = [] := by
  cases k with
  | column name => simp [template, Sql.named, Template.number]
  | datePart part name =>
      have hp := isPlain_part h
      simp +decide [template, Sql.words, Sql.named, Template.number, Fragment.Readable, hp]

theorem Output.template_silent {o : Output} (h : o.IsKnown) (next : Nat) :
    Fragment.Readable (o.template.number next) ∧ placeholders (o.template.number next) = [] := by
  cases o with
  | field name => simp [template, Sql.named, Template.number]
  | key k label =>
      obtain ⟨hr, hp⟩ := GroupKey.template_silent h next
      simp +decide [template, Sql.words, Sql.named, Template.number, Template.number_append, hr, hp]
  | accumulate function name label =>
      have hf := isPlain_function h
      simp +decide [template, Sql.words, Sql.named, Template.number, hf]
  | count label => simp +decide [template, Sql.words, Sql.named, Template.number]

namespace Pipeline

/-! ## Filters -/

theorem compares_fresh (column : String) (c : Comparison) (v : Value) :
    Template.Fresh (Test.compares (.column column) c v).template ∧
      (Template.values (Test.compares (.column column) c v).template) = [v] := by
  have hc : Template.Clean (IsNameOf fun _ => True) (IsStepOf fun _ => True)
      (Test.compares (.column column) c v).template := Test.template_clean trivial
  exact ⟨hc.fresh, by simp [Test.template, Operand.template, Sql.words, Sql.named, Sql.value]⟩

theorem comparisonsOf_fresh {column : String} {value : Json} {t : Template}
    (h : t ∈ comparisonsOf column value) : t.Fresh ∧ Template.values t ≠ [] := by
  obtain ⟨⟨op, c⟩, -, ht⟩ := List.mem_filterMap.mp h
  obtain ⟨operand, -, rfl⟩ := Option.map_eq_some_iff.mp ht
  obtain ⟨hf, hv⟩ := compares_fresh column c (Encoding.untyped operand)
  exact ⟨hf, by simp [hv]⟩

theorem equals_fresh (column : String) (v : Value) :
    Template.Fresh (Test.equals (.column column) v).template ∧
      Template.values (Test.equals (.column column) v).template ≠ [] := by
  have hc : Template.Clean (IsNameOf fun _ => True) (IsStepOf fun _ => True)
      (Test.equals (.column column) v).template := Test.template_clean trivial
  exact ⟨hc.fresh, by simp [Test.template, Operand.template, Sql.words, Sql.named, Sql.value]⟩

/-- Constraints bind a value at least. -/
theorem constraint_fresh {schema : Schema} {key : String} {value : Json} {t : Template}
    (h : constraint schema key value = .ok (some t)) : t.Fresh ∧ Template.values t ≠ [] := by
  unfold constraint at h
  obtain ⟨-, -, h⟩ := Result.bind_ok h
  dsimp only at h
  split at h
  · rename_i hne
    cases h
    have hcs : ∀ u ∈ comparisonsOf (storedName key) value, u.Fresh ∧ Template.values u ≠ [] :=
      fun u hu => comparisonsOf_fresh hu
    refine ⟨.enclose (by decide) (by decide) (by decide)
      (.join (by decide) (by decide) _ fun u hu => (hcs u hu).1), ?_⟩
    cases hc : comparisonsOf (storedName key) value with
    | nil => simp [hc] at hne
    | cons u us =>
        rw [hc] at hcs
        simp [Sql.words, Template.values_join, (hcs u (.head _)).2]
  split at h
  · cases h
  split at h
  · obtain ⟨v, -, h⟩ := Result.bind_ok h
    cases h
    exact equals_fresh _ v
  · cases h
    exact equals_fresh _ _

theorem constraintsOf_fresh {schema : Schema} {entries : Document} {cs : List Template}
    (h : constraintsOf schema entries = .ok cs) : ∀ t ∈ cs, t.Fresh ∧ Template.values t ≠ [] := by
  induction entries generalizing cs with
  | nil =>
      cases h
      simp
  | cons entry rest ih =>
      obtain ⟨key, value⟩ := entry
      obtain ⟨c, hc, h⟩ := Result.bind_ok h
      obtain ⟨ds, hds, h⟩ := Result.bind_ok h
      cases h
      rw [List.forall_mem_append]
      refine ⟨?_, ih hds⟩
      intro t ht
      obtain rfl := Option.mem_toList.mp ht
      exact constraint_fresh hc

theorem joiner_plain (filter : Document) :
    IsPlain (filterEntries filter).2 ∧ StartsApart (filterEntries filter).2 := by
  have hj : (filterEntries filter).2 = " OR " ∨ (filterEntries filter).2 = " AND " := by
    unfold filterEntries
    split
    · exact .inl rfl
    · exact .inr rfl
  rcases hj with h | h <;> rw [h] <;> decide

/-- The text of a filter, and whether it binds values. -/
theorem join_constraints {schema : Schema} {filter : Document} {cs : List Template}
    (h : constraintsOf schema (filterEntries filter).1 = .ok cs) :
    (Template.join (filterEntries filter).2 cs).Fresh ∧
      (Template.values (Template.join (filterEntries filter).2 cs) = [] ↔ cs = []) := by
  have hcs := constraintsOf_fresh h
  obtain ⟨hp, ha⟩ := joiner_plain filter
  refine ⟨.join hp ha cs fun t ht => (hcs t ht).1, ?_⟩
  rw [Template.values_join, List.flatMap_eq_nil_iff]
  constructor
  · intro hv
    cases cs with
    | nil => rfl
    | cons t ts => exact absurd (hv t (.head _)) (hcs t (.head _)).2
  · rintro rfl
    simp

/-! ## Clauses and what they use -/

/--
What stages with some numbers of limits and skips, and with filters that bound some values, leave: clauses
that use each its own placeholders, of which the last of a kind are the ones that count.
-/
structure Counted (limits skips : Nat) (filters : List (List Value)) (b : Bindings)
    (filter limit offset : Fragment) : Prop where
  first : b.first = 1
  filter_readable : filter.Readable
  limit_trailing : limit.Trailing
  offset_trailing : offset.Trailing
  nodup : (placeholders filter ++ (placeholders limit ++ placeholders offset)).Nodup
  used : ∀ k ∈ placeholders filter ++ (placeholders limit ++ placeholders offset), 1 ≤ k ∧ k < b.next
  filter_length : (placeholders filter).length = (filters.getLast?.getD []).length
  limit_length : (placeholders limit).length = min limits 1
  offset_length : (placeholders offset).length = min skips 1
  values_length : b.values.length = filters.flatten.length + limits + skips

namespace Counted

variable {limits skips : Nat} {filters : List (List Value)} {b : Bindings} {filter limit offset : Fragment}

theorem empty : Counted 0 0 [] .empty [] [] [] where
  first := rfl
  filter_readable := trivial
  limit_trailing := .nil
  offset_trailing := .nil
  nodup := by simp
  used := by simp
  filter_length := rfl
  limit_length := rfl
  offset_length := rfl
  values_length := rfl

theorem one_le_next (h : Counted limits skips filters b filter limit offset) : 1 ≤ b.next := by
  rw [Bindings.next, h.first]
  omega

/-- Placeholders from the first free one on, in place of some or besides all that are used. -/
theorem renumbered (h : Counted limits skips filters b filter limit offset) {kept ns : List Nat} {n : Nat}
    (hkept : kept.Sublist (placeholders filter ++ (placeholders limit ++ placeholders offset)))
    (hns : ns.Perm (List.range' b.next n ++ kept)) :
    ns.Nodup ∧ ∀ k ∈ ns, 1 ≤ k ∧ k < b.next + n := by
  have h1 := h.one_le_next
  have hu : ∀ k ∈ kept, 1 ≤ k ∧ k < b.next := fun k hk => h.used k (hkept.subset hk)
  constructor
  · rw [hns.nodup_iff, List.nodup_append]
    refine ⟨List.nodup_range', h.nodup.sublist hkept, ?_⟩
    intro k hk m hm
    have hk := List.mem_range'_1.mp hk
    have hm := hu m hm
    omega
  · intro k hk
    rw [hns.mem_iff, List.mem_append, List.mem_range'_1] at hk
    rcases hk with hk | hk
    · omega
    · have hk := hu k hk
      omega

/-- A filter replaces the one before it and binds values of its own. -/
theorem filterWith (h : Counted limits skips filters b filter limit offset) {t : Template} (ht : t.Fresh) :
    Counted limits skips (filters ++ [Template.values t]) (b.append (Template.values t))
      (t.number b.next) limit offset := by
  have hp := ht.placeholders b.next
  obtain ⟨hn, hu⟩ := h.renumbered (List.sublist_append_right _ _) (List.Perm.refl _)
  refine ⟨h.first, ht.exact.readable _, h.limit_trailing, h.offset_trailing, hp ▸ hn, ?_, ?_,
    h.limit_length, h.offset_length, ?_⟩
  · rw [hp, Bindings.next_append]
    exact hu
  · rw [hp, List.length_range', List.getLast?_concat]
    rfl
  · simp [h.values_length]
    omega

/-- A limit replaces the one before it and binds its number. -/
theorem limitWith (h : Counted limits skips filters b filter limit offset) {t : Template} {v : Value}
    (ht : t.Trailing) (hp : placeholders (t.number b.next) = List.range' b.next 1) :
    Counted (limits + 1) skips filters (b.append [v]) filter (t.number b.next) offset := by
  obtain ⟨hn, hu⟩ := h.renumbered ((List.sublist_append_right _ _).append_left _)
    (List.perm_append_comm_assoc _ _ _)
  refine ⟨h.first, h.filter_readable, ht.numbered _, h.offset_trailing, hp ▸ hn, ?_, h.filter_length,
    ?_, h.offset_length, ?_⟩
  · rw [hp, Bindings.next_append]
    exact hu
  · rw [hp, List.length_range']
    omega
  · rw [Bindings.values_append, List.length_append, List.length_singleton, h.values_length]
    omega

/-- A number of rows to skip replaces the one before it. -/
theorem skipWith (h : Counted limits skips filters b filter limit offset) {t : Template} {v : Value}
    (ht : t.Trailing) (hp : placeholders (t.number b.next) = List.range' b.next 1) :
    Counted limits (skips + 1) filters (b.append [v]) filter limit (t.number b.next) := by
  have hperm : (placeholders filter ++ (placeholders limit ++ List.range' b.next 1)).Perm
      (List.range' b.next 1 ++ (placeholders filter ++ placeholders limit)) := by
    rw [← List.append_assoc]
    exact List.perm_append_comm
  obtain ⟨hn, hu⟩ := h.renumbered ((List.sublist_append_left _ _).append_left _) hperm
  refine ⟨h.first, h.filter_readable, h.limit_trailing, ht.numbered _, hp ▸ hn, ?_, h.filter_length,
    h.limit_length, ?_, ?_⟩
  · rw [hp, Bindings.next_append]
    exact hu
  · rw [hp, List.length_range']
    omega
  · rw [Bindings.values_append, List.length_append, List.length_singleton, h.values_length]
    omega

end Counted

/-- Numbers that occur once each are all up to a bound just if there are as many. -/
theorem covers_iff_length {ns : List Nat} {n : Nat} (hn : ns.Nodup) (hb : ∀ k ∈ ns, 1 ≤ k ∧ k ≤ n) :
    (∀ k, k ∈ ns ↔ 1 ≤ k ∧ k ≤ n) ↔ ns.length = n := by
  have hsub : ns ⊆ List.range' 1 n := by
    intro k hk
    have := hb k hk
    rw [List.mem_range'_1]
    omega
  constructor
  · intro h
    have hp : ns.Perm (List.range' 1 n) := by
      rw [List.perm_ext_iff_of_nodup hn List.nodup_range']
      intro k
      rw [h, List.mem_range'_1]
      omega
    simpa using hp.length_eq
  · intro h k
    have hp : ns.Perm (List.range' 1 n) :=
      (List.subperm_of_subset hn hsub).perm_of_length_le (by simp [h])
    rw [hp.mem_iff, List.mem_range'_1]
    omega

/-! ## Stages -/

/-- A filter, where there is one; other values are ignored. -/
def filterIn? : Option Json → Option Document
  | some (.object filter) => some filter
  | _ => none

/-- The filter of a stage. -/
def filterOf? (stage : Json) : Option Document := filterIn? (stage.get? "$match")

/-- How many stages use an operator. -/
def uses (operator : String) (stages : List Json) : Nat :=
  stages.countP fun stage => (stage.get? operator).isSome

/-- The values that a filter binds. -/
def boundBy (schema : Schema) (filter : Document) : List Value :=
  match constraintsOf schema (filterEntries filter).1 with
  | .ok cs => Template.values (Template.join (filterEntries filter).2 cs)
  | .error _ => []

theorem groupKey_known {v : Json} {k : GroupKey} (h : groupKey v = .ok (some k)) : k.IsKnown := by
  unfold groupKey at h
  split at h
  · split at h
    · cases h
    · obtain ⟨column, -, h⟩ := Result.map_ok h
      cases h
      trivial
  · split at h
    · rename_i part hpart
      obtain ⟨column, -, h⟩ := Result.map_ok h
      cases h
      exact Fields.mem_of_get? hpart
    · cases h
  · cases h

theorem groupKeysOf_known {fields : Document} {keys : List (String × GroupKey)}
    (h : groupKeysOf fields = .ok keys) : ∀ k ∈ keys, k.2.IsKnown := by
  induction fields generalizing keys with
  | nil =>
      cases h
      simp
  | cons entry rest ih =>
      obtain ⟨label, v⟩ := entry
      obtain ⟨-, -, h⟩ := Result.bind_ok h
      obtain ⟨key, hkey, h⟩ := Result.bind_ok h
      obtain ⟨others, hothers, h⟩ := Result.bind_ok h
      cases h
      rw [List.forall_mem_append]
      refine ⟨?_, ih hothers⟩
      intro k hk
      obtain ⟨g, rfl, rfl⟩ := Option.map_eq_some_iff.mp (Option.mem_toList.mp hk)
      exact groupKey_known hkey

/-- Keys that are not there yet come behind those that are. -/
theorem foldl_distinctKeys (keys : List GroupKey) {seen : List GroupKey} (hseen : seen.Nodup) :
    (keys.foldl (fun seen k => if k ∈ seen then seen else seen ++ [k]) seen).Nodup ∧
      ∀ k, k ∈ keys.foldl (fun seen k => if k ∈ seen then seen else seen ++ [k]) seen ↔ k ∈ seen ∨ k ∈ keys := by
  induction keys generalizing seen with
  | nil => exact ⟨hseen, fun k => by simp⟩
  | cons g rest ih =>
      rw [List.foldl_cons]
      split
      next hg =>
        refine ⟨(ih hseen).1, fun k => ?_⟩
        rw [(ih hseen).2, List.mem_cons]
        exact ⟨.imp_right .inr, fun hk => hk.elim .inl fun hk => hk.elim (fun h => .inl (h ▸ hg)) .inr⟩
      next hg =>
        have hnext : (seen ++ [g]).Nodup := List.nodup_append.mpr
          ⟨hseen, List.nodup_singleton g, fun k hk m hm => by
            rintro rfl
            exact hg (List.mem_singleton.mp hm ▸ hk)⟩
        refine ⟨(ih hnext).1, fun k => ?_⟩
        rw [(ih hnext).2, List.mem_append, List.mem_singleton, List.mem_cons, or_assoc]

theorem nodup_distinctKeys (keys : List GroupKey) : (distinctKeys keys).Nodup := (foldl_distinctKeys keys .nil).1

theorem mem_distinctKeys {keys : List GroupKey} {k : GroupKey} : k ∈ distinctKeys keys ↔ k ∈ keys :=
  ((foldl_distinctKeys keys .nil).2 k).trans (or_iff_right List.not_mem_nil)

/-- What is kept from stage to stage. -/
structure Tracks (limits skips : Nat) (filters : List (List Value)) (p : Pipeline) : Prop where
  outputs : ∀ o ∈ p.outputs, o.IsKnown
  groupBy : ∀ k ∈ p.groupBy, k.IsKnown
  order : ∀ f ∈ p.order, f.Readable ∧ placeholders f = []
  counted : Counted limits skips filters p.bindings (p.filter.getD []) p.limit p.offset

namespace Tracks

variable {limits skips : Nat} {filters : List (List Value)} {p q : Pipeline}

theorem empty : Tracks 0 0 [] Pipeline.empty where
  outputs := by simp [Pipeline.empty]
  groupBy := by simp [Pipeline.empty]
  order := by simp [Pipeline.empty]
  counted := .empty

/-- Columns are added to what is there. -/
theorem withOutputs (h : Tracks limits skips filters p) {os : List Output} (ho : ∀ o ∈ os, o.IsKnown)
    (countField : Option String) :
    Tracks limits skips filters { p with outputs := p.outputs ++ os, countField := countField } where
  outputs := List.forall_mem_append.mpr ⟨h.outputs, ho⟩
  groupBy := h.groupBy
  order := h.order
  counted := h.counted

/-- The keys of a group replace the ones before. -/
theorem withGroup (h : Tracks limits skips filters p) {os : List Output} (ho : ∀ o ∈ os, o.IsKnown)
    {ks : List GroupKey} (hk : ∀ k ∈ ks, k.IsKnown) (names : List String) :
    Tracks limits skips filters
      { p with outputs := p.outputs ++ os, groupBy := ks, groupKeys := names } where
  outputs := List.forall_mem_append.mpr ⟨h.outputs, ho⟩
  groupBy := hk
  order := h.order
  counted := h.counted

theorem accumulate {field : String} {fields : Document} (hp : Tracks limits skips filters p)
    (h : accumulate field fields p = .ok q) : Tracks limits skips filters q := by
  obtain ⟨-, -, h⟩ := Result.bind_ok h
  refine Result.foldlM_ok (fun entry hentry s t hs ht => ?_) hp h
  obtain ⟨op, function⟩ := entry
  dsimp only at ht
  split at ht
  · cases ht
    exact hs
  · obtain ⟨column, -, rfl⟩ := Result.map_ok ht
    refine hs.withOutputs ?_ _
    simpa [Output.IsKnown] using ⟨op, hentry⟩
  · split at ht
    · cases ht
      exact hs.withOutputs (by simp [Output.IsKnown]) _
    · cases ht
      exact hs

theorem groupEntry {field : String} {value : Json} (hp : Tracks limits skips filters p)
    (h : groupEntry p field value = .ok q) : Tracks limits skips filters q := by
  unfold Pipeline.groupEntry at h
  split at h
  · split at h
    · obtain ⟨column, -, rfl⟩ := Result.map_ok h
      exact hp.withGroup (by simp [Output.IsKnown, GroupKey.IsKnown]) (by simp [GroupKey.IsKnown]) _
    · cases h
      exact hp
  · split at h
    · obtain ⟨keys, hkeys, rfl⟩ := Result.map_ok h
      have hk := groupKeysOf_known hkeys
      refine hp.withGroup ?_ ?_ _
      · intro o ho
        obtain ⟨⟨label, k⟩, hm, rfl⟩ := List.mem_map.mp ho
        exact hk _ hm
      · intro k hm
        obtain ⟨e, he, rfl⟩ := List.mem_map.mp (mem_distinctKeys.mp hm)
        exact hk e he
    · exact hp.accumulate h
  · cases h
    exact hp

theorem group {v : Option Json} (hp : Tracks limits skips filters p) (h : p.group v = .ok q) :
    Tracks limits skips filters q := by
  unfold Pipeline.group at h
  split at h
  · cases h
    exact hp
  · exact Result.foldlM_ok (fun entry _ s t hs ht => groupEntry hs ht) hp h
  · cases h

theorem project {v : Option Json} (hp : Tracks limits skips filters p) (h : p.project v = .ok q) :
    Tracks limits skips filters q := by
  unfold Pipeline.project at h
  split at h
  · refine Result.foldlM_ok (fun entry _ s t hs ht => ?_) hp h
    dsimp only at ht
    split at ht
    · obtain ⟨-, -, rfl⟩ := Result.map_ok ht
      exact hs.withOutputs (by simp [Output.IsKnown]) _
    · cases ht
      exact hs
  · cases h
    exact hp

theorem sortRows {v : Option Json} (hp : Tracks limits skips filters p) (h : p.sortRows v = .ok q) :
    Tracks limits skips filters q := by
  unfold Pipeline.sortRows at h
  split at h
  · obtain ⟨order, horder, rfl⟩ := Result.map_ok h
    refine ⟨hp.outputs, hp.groupBy, fun f hf => ?_, hp.counted⟩
    obtain ⟨entry, -, hentry⟩ := Result.mem_of_mapM_ok horder hf
    obtain ⟨-, -, rfl⟩ := Result.map_ok hentry
    split <;> simp +decide
  · cases h
    exact hp

theorem filterRows {schema : Schema} {v : Option Json} (hp : Tracks limits skips filters p)
    (h : filterRows schema p v = .ok q) :
    Tracks limits skips (filters ++ ((filterIn? v).map (boundBy schema)).toList) q := by
  unfold Pipeline.filterRows at h
  split at h
  · rename_i filter
    obtain ⟨cs, hcs, rfl⟩ := Result.map_ok h
    obtain ⟨hfresh, -⟩ := join_constraints hcs
    have hb : boundBy schema filter = Template.values (Template.join (filterEntries filter).2 cs) := by
      have hcs : constraintsOf schema (filterEntries filter).1 = .ok cs := hcs
      simp only [boundBy, hcs]
    -- A filter without constraints leaves none behind, which has as many placeholders as an empty one.
    have hf : (if cs.isEmpty then none
        else some ((Template.join (filterEntries filter).2 cs).number p.bindings.next)).getD [] =
          (Template.join (filterEntries filter).2 cs).number p.bindings.next := by
      split
      · rename_i he
        rw [List.isEmpty_iff.mp he]
        rfl
      · rfl
    have hc := hp.counted.filterWith hfresh
    rw [← hf] at hc
    refine ⟨hp.outputs, hp.groupBy, hp.order, ?_⟩
    simp only [filterIn?, Option.map_some, Option.toList_some, hb]
    exact hc
  · rename_i hv
    cases h
    have hn : filterIn? v = none := by
      unfold filterIn?
      split
      · exact absurd rfl (hv _)
      · rfl
    simpa [hn] using hp

/-- A clause that counts rows binds its number. -/
theorem placeholders_countClause (start : String) (n : Int) (next : Nat) :
    placeholders ((countClause start (some n)).number next) = List.range' next 1 := rfl

theorem limitRows {v : Option Json} (hp : Tracks limits skips filters p) (h : p.limitRows v = .ok q) :
    Tracks (limits + if v.isSome then 1 else 0) skips filters q := by
  unfold Pipeline.limitRows at h
  split at h
  · cases h
    exact hp
  · obtain ⟨n, -, rfl⟩ := Result.map_ok h
    have ht : Template.Trailing (countClause " LIMIT " (some n)) :=
      countClause_trailing (by decide) (by decide) _
    exact ⟨hp.outputs, hp.groupBy, hp.order, hp.counted.limitWith ht (placeholders_countClause _ _ _)⟩

theorem skipRows {v : Option Json} (hp : Tracks limits skips filters p) (h : p.skipRows v = .ok q) :
    Tracks limits (skips + if v.isSome then 1 else 0) filters q := by
  unfold Pipeline.skipRows at h
  split at h
  · cases h
    exact hp
  · obtain ⟨n, -, rfl⟩ := Result.map_ok h
    have ht : Template.Trailing (countClause " OFFSET " (some n)) :=
      countClause_trailing (by decide) (by decide) _
    exact ⟨hp.outputs, hp.groupBy, hp.order, hp.counted.skipWith ht (placeholders_countClause _ _ _)⟩

/-- One stage adds what it asks for. -/
theorem stage {schema : Schema} {v : Json} (hp : Tracks limits skips filters p)
    (h : stage schema p v = .ok q) :
    Tracks (limits + uses "$limit" [v]) (skips + uses "$skip" [v])
      (filters ++ ((filterOf? v).map (boundBy schema)).toList) q := by
  obtain ⟨p1, h1, h⟩ := Result.bind_ok h
  obtain ⟨p2, h2, h⟩ := Result.bind_ok h
  obtain ⟨p3, h3, h⟩ := Result.bind_ok h
  obtain ⟨p4, h4, h⟩ := Result.bind_ok h
  obtain ⟨p5, h5, h⟩ := Result.bind_ok h
  have hp := ((((hp.group h1).project h2).filterRows h3).limitRows h4).skipRows h5
  simpa only [uses, filterOf?, List.countP_singleton] using hp.sortRows h

/-- A run of stages adds up what they ask for. -/
theorem run {schema : Schema} {stages : List Json} (hp : Tracks limits skips filters p)
    (h : stages.foldlM (Pipeline.stage schema) p = .ok q) :
    Tracks (limits + uses "$limit" stages) (skips + uses "$skip" stages)
      (filters ++ (stages.filterMap filterOf?).map (boundBy schema)) q := by
  -- On the stages, whatever ran before them: the counts so far are those of the pipeline `p`.
  induction stages generalizing p limits skips filters with
  | nil =>
      cases h
      simpa [uses] using hp
  | cons v rest ih =>
      rw [List.foldlM_cons] at h
      obtain ⟨r, hr, h⟩ := Result.bind_ok h
      have hq := ih (hp.stage hr) h
      have hu : ∀ operator, uses operator (v :: rest) = uses operator [v] + uses operator rest :=
        fun operator => by simp [uses, List.countP_cons, Nat.add_comm]
      have hs : (List.filterMap filterOf? (v :: rest)).map (boundBy schema) =
          ((filterOf? v).map (boundBy schema)).toList ++
            (rest.filterMap filterOf?).map (boundBy schema) := by
        cases hv : filterOf? v <;> simp [hv]
      rw [hu, hu, hs, ← Nat.add_assoc, ← Nat.add_assoc, ← List.append_assoc]
      exact hq

end Tracks

theorem compile_tracks {schema : Schema} {stages : List Json} {p : Pipeline}
    (h : compile schema stages = .ok p) :
    Tracks (uses "$limit" stages) (uses "$skip" stages)
      ((stages.filterMap filterOf?).map (boundBy schema)) p := by
  simpa using Tracks.empty.run h

/-! ## Accepted filters -/

theorem filterRows_accepted {schema : Schema} {p q : Pipeline} {v : Option Json} {filter : Document}
    (h : filterRows schema p v = .ok q) (hf : filterIn? v = some filter) :
    ∃ cs, constraintsOf schema (filterEntries filter).1 = .ok cs := by
  unfold filterIn? at hf
  split at hf
  · cases hf
    obtain ⟨cs, hcs, -⟩ := Result.map_ok h
    exact ⟨cs, hcs⟩
  · cases hf

theorem filter_accepted {schema : Schema} {p q : Pipeline} {v : Json} {filter : Document}
    (h : stage schema p v = .ok q) (hf : filterOf? v = some filter) :
    ∃ cs, constraintsOf schema (filterEntries filter).1 = .ok cs := by
  obtain ⟨p1, -, h⟩ := Result.bind_ok h
  obtain ⟨p2, -, h⟩ := Result.bind_ok h
  obtain ⟨p3, h3, -⟩ := Result.bind_ok h
  exact filterRows_accepted h3 hf

theorem filters_accepted {schema : Schema} {stages : List Json} {p q : Pipeline}
    (h : stages.foldlM (stage schema) p = .ok q) : ∀ filter ∈ stages.filterMap filterOf?,
      ∃ cs, constraintsOf schema (filterEntries filter).1 = .ok cs := by
  intro filter hfilter
  obtain ⟨v, hv, hf⟩ := List.mem_filterMap.mp hfilter
  clear hfilter
  induction stages generalizing p with
  | nil => cases hv
  | cons w rest ih =>
      rw [List.foldlM_cons] at h
      obtain ⟨r, hr, h⟩ := Result.bind_ok h
      rcases List.mem_cons.mp hv with rfl | hv
      · exact filter_accepted hr hf
      · exact ih h hv

theorem boundBy_eq_nil {schema : Schema} {filter : Document}
    (h : ∃ cs, constraintsOf schema (filterEntries filter).1 = .ok cs) :
    boundBy schema filter = [] ↔ constraintsOf schema (filterEntries filter).1 = .ok [] := by
  obtain ⟨cs, hcs⟩ := h
  obtain ⟨-, hz⟩ := join_constraints hcs
  simp only [boundBy, hcs]
  rw [hz, Except.ok.injEq]

/-! ## Statements -/

/-- Only the filter and the two counts have placeholders. -/
theorem Tracks.statement_sql {limits skips : Nat} {filters : List (List Value)} {p : Pipeline}
    (h : Tracks limits skips filters p) (schema : Schema) :
    (p.statement schema).sql.Readable ∧ placeholders (p.statement schema).sql =
      placeholders (p.filter.getD []) ++ (placeholders p.limit ++ placeholders p.offset) := by
  have hos : ∀ f ∈ p.outputs.map fun o => o.template.number 1, f.Readable ∧ placeholders f = [] := by
    intro f hf
    obtain ⟨o, ho, rfl⟩ := List.mem_map.mp hf
    exact Output.template_silent (h.outputs o ho) 1
  have hgs : ∀ f ∈ p.groupBy.map fun k => k.template.number 1, f.Readable ∧ placeholders f = [] := by
    intro f hf
    obtain ⟨k, hk, rfl⟩ := List.mem_map.mp hf
    exact GroupKey.template_silent (h.groupBy k hk) 1
  have hsilent : ∀ fs : List Fragment, (∀ f ∈ fs, f.Readable ∧ placeholders f = []) →
      fs.flatMap placeholders = [] := fun fs hfs =>
    List.flatMap_eq_nil_iff.mpr fun f hf => (hfs f hf).2
  constructor
  · have ho : (Sql.joinFragments ", " (orAll (p.outputs.map fun o => o.template.number 1))).Readable :=
      Sql.readable_joinFragments (by decide) (by decide) _ (readable_orAll fun f hf => (hos f hf).1)
    have hg : Fragment.Trailing (clauseOf " GROUP BY " (p.groupBy.map fun k => k.template.number 1)) :=
      clauseOf_trailing (by decide) (by decide) fun f hf => (hgs f hf).1
    have hs : Fragment.Trailing (clauseOf " ORDER BY " p.order) :=
      clauseOf_trailing (by decide) (by decide) fun f hf => (h.order f hf).1
    unfold Pipeline.statement
    refine .append (.append (.append (.append (.append ?_ ?_) hg) hs) ?_) ?_
    · exact ⟨by decide, ho⟩
    · refine .text (by decide) (by decide) ?_
      have hf := h.counted.filter_readable
      cases hp : p.filter with
      | none => exact ⟨trivial, trivial, trivial⟩
      | some f =>
          rw [hp] at hf
          exact ⟨trivial, Sql.Fragment.detached_text (by decide), by decide, hf⟩
    · exact h.counted.limit_trailing
    · exact h.counted.offset_trailing
  · unfold Pipeline.statement
    cases hp : p.filter <;> simp [Sql.placeholders_joinFragments, flatMap_orAll, placeholders_clauseOf,
      hsilent _ hos, hsilent _ hgs, hsilent _ h.order]

theorem length_flatten_eq (vss : List (List Value)) :
    vss.flatten.length = vss.dropLast.flatten.length + (vss.getLast?.getD []).length := by
  rcases List.eq_nil_or_concat vss with rfl | ⟨wss, vs, rfl⟩
  · rfl
  · simp

/--
Every placeholder of a pipeline has a value. Every value that was bound is used just if at most one stage
limits the rows, at most one skips rows, and no filter but the last has constraints.
-/
theorem statement_exact_iff {schema : Schema} {stages : List Json} {p : Pipeline}
    (h : compile schema stages = .ok p) :
    (∃ ns, Sql.readPlaceholders (p.statement schema).text = some ns ∧
      ∀ k ∈ ns, 1 ≤ k ∧ k ≤ (p.statement schema).values.length) ∧
    ((p.statement schema).Exact ↔ uses "$limit" stages ≤ 1 ∧ uses "$skip" stages ≤ 1 ∧
      ∀ filter ∈ (stages.filterMap filterOf?).dropLast,
        constraintsOf schema (filterEntries filter).1 = .ok []) := by
  have hp := compile_tracks h
  have hc := hp.counted
  obtain ⟨hr, hs⟩ := hp.statement_sql schema
  have hn : p.bindings.next = p.bindings.values.length + 1 := by
    rw [Bindings.next, hc.first, Nat.add_comm]
  have hused : ∀ k ∈ placeholders (p.filter.getD []) ++ (placeholders p.limit ++ placeholders p.offset),
      1 ≤ k ∧ k ≤ p.bindings.values.length := by
    intro k hk
    have := hc.used k hk
    omega
  have hlast : (∀ filter ∈ (stages.filterMap filterOf?).dropLast,
      constraintsOf schema (filterEntries filter).1 = .ok []) ↔
        (((stages.filterMap filterOf?).map (boundBy schema)).dropLast).flatten.length = 0 := by
    rw [List.length_eq_zero_iff, List.flatten_eq_nil_iff, ← List.map_dropLast, List.forall_mem_map]
    refine forall₂_congr fun filter hf => ?_
    rw [boundBy_eq_nil (filters_accepted h filter (List.dropLast_subset _ hf))]
  refine ⟨⟨_, hr.readPlaceholders_render, by rw [hs]; exact hused⟩, ?_⟩
  -- The placeholders differ and are numbers of values, so they are all of them just if they are as many.
  calc (p.statement schema).Exact
      ↔ ∀ k, k ∈ placeholders (p.statement schema).sql ↔ 1 ≤ k ∧ k ≤ p.bindings.values.length :=
        hr.exact_iff
    _ ↔ (placeholders (p.filter.getD []) ++ (placeholders p.limit ++ placeholders p.offset)).length =
          p.bindings.values.length := by rw [hs, covers_iff_length hc.nodup hused]
    _ ↔ _ := by
      rw [hlast, List.length_append, List.length_append, hc.filter_length, hc.limit_length,
        hc.offset_length, hc.values_length, length_flatten_eq]
      omega

/-- Posts whose titles are texts. -/
def titledPosts : Schema := ⟨"Post", [("title", .ofType .string)], none, []⟩

/-- A filter without constraints before one with, and one limit. -/
def replacedFilter : List Json :=
  [.object [("$match", .object [("other", .null)])],
    .object [("$match", .object [("title", .string "a")]), ("$limit", .int 2)]]

theorem statement_exact_iff_replacedFilter :
    ∃ p, compile titledPosts replacedFilter = .ok p ∧ (p.statement titledPosts).values.length = 2 ∧
      (p.statement titledPosts).Exact := by
  obtain ⟨p, hp, hn⟩ : ∃ p, compile titledPosts replacedFilter = .ok p ∧
      (p.statement titledPosts).values.length = 2 := ⟨_, rfl, rfl⟩
  have hd : (replacedFilter.filterMap filterOf?).dropLast = [[("other", .null)]] := rfl
  refine ⟨p, hp, hn, (statement_exact_iff hp).2.mpr ⟨by decide, by decide, ?_⟩⟩
  rw [hd]
  intro filter hf
  rw [List.mem_singleton.mp hf]
  rfl

/-- A second limit leaves the value of the first one without a placeholder. -/
theorem compile_two_limits :
    ∃ p, compile titledPosts [.object [("$limit", .int 1)], .object [("$limit", .int 2)]] = .ok p ∧
      (p.statement titledPosts).text = "SELECT * FROM \"Post\" LIMIT $2" ∧
      (p.statement titledPosts).values = [.integer 1, .integer 2] ∧
      ¬ (p.statement titledPosts).Exact := by
  refine ⟨_, rfl, rfl, rfl, ?_⟩
  rintro ⟨ns, hns, h⟩
  have hr : Sql.readPlaceholders "SELECT * FROM \"Post\" LIMIT $2" = some [2] := by decide
  obtain rfl : [2] = ns := Option.some.inj (hr.symm.trans hns)
  have h1 : 1 ∈ [2] := (h 1).mpr ⟨Nat.le_refl 1, by decide⟩
  simp at h1

end Pipeline

end Docstore.Query
