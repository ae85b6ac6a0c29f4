import Docstore.Proofs.Json.Order
import Docstore.Proofs.Query.StageOrder

/-!
# Columns of groups

A group selects the expressions that it groups by, each with its label, and calls of aggregate functions. Main
statement: `Pipeline.group_statement`.
-/

namespace Docstore.Query

open Docstore.Sql (Fragment Template)

/-- A call of an aggregate function. -/
def Output.IsCall : Output → Prop
  | accumulate function _ _ => function ∈ accumulators.map Prod.snd
  | count _ => True
  | _ => False

/-- A group expression with its label. -/
def Output.ofKey (k : String × GroupKey) : Output := .key k.2 k.1

theorem Output.ofKey_number (k : String × GroupKey) :
    (ofKey k).template.number 1 = k.2.template.number 1 ++ [.text " AS ", .name k.1] := by
  obtain ⟨label, k⟩ := k
  cases k <;> rfl

/-- Different keys are different expressions. -/
theorem GroupKey.template_injective : Function.Injective fun k : GroupKey => k.template.number 1 := by
  intro k k' h
  cases k <;> cases k' <;> simp_all [template, Sql.words, Sql.named, Template.number]

namespace Pipeline

variable {p q r : Pipeline}

/-! ## Calls -/

/-- Whether an operator of a field asks for a call. -/
def isCalled (fields : Document) (operator : String) : Bool :=
  match Fields.get? operator fields with
  | none => false
  | some (.string _) => true
  | some _ => operator = "$sum"

/-- Calls are added to what is selected, and the groups stay. -/
structure AddsCalls (p q : Pipeline) (calls : List Output) : Prop where
  outputs : q.outputs = p.outputs ++ calls
  isCall : ∀ o ∈ calls, o.IsCall
  groupBy : q.groupBy = p.groupBy
  groupKeys : q.groupKeys = p.groupKeys

theorem AddsCalls.refl (p : Pipeline) : AddsCalls p p [] where
  outputs := (List.append_nil _).symm
  isCall := List.forall_mem_nil _
  groupBy := rfl
  groupKeys := rfl

theorem AddsCalls.trans {calls calls' : List Output} (h : AddsCalls p q calls) (h' : AddsCalls q r calls') :
    AddsCalls p r (calls ++ calls') where
  outputs := by rw [h'.outputs, h.outputs, List.append_assoc]
  isCall := List.forall_mem_append.mpr ⟨h.isCall, h'.isCall⟩
  groupBy := h'.groupBy.trans h.groupBy
  groupKeys := h'.groupKeys.trans h.groupKeys

theorem AddsCalls.single {o : Output} (ho : o.IsCall) (countField : Option String) :
    AddsCalls p { p with outputs := p.outputs ++ [o], countField } [o] :=
  ⟨rfl, List.forall_mem_singleton.mpr ho, rfl, rfl⟩

theorem isCalled_of_get? {fields : Document} {operator : String} {v : Json}
    (hv : Fields.get? operator fields = some v) (hv' : ∀ reference, v ≠ .string reference) :
    isCalled fields operator = decide (operator = "$sum") := by
  rw [isCalled, hv]
  cases v with
  | string reference => exact absurd rfl (hv' reference)
  | _ => rfl

theorem accumulate_ok {field : String} {fields : Document} (h : accumulate field fields p = .ok q) :
    ∃ calls, AddsCalls p q calls ∧ (calls = [] ↔ ∀ e ∈ accumulators, isCalled fields e.1 = false) := by
  obtain ⟨-, -, h⟩ := Result.bind_ok h
  refine Result.foldlM_adds AddsCalls.refl AddsCalls.trans (fun ⟨operator, function⟩ hoperator s t ht => ?_) h
  dsimp only at ht ⊢
  split at ht
  next hnone =>
    cases ht
    exact ⟨[], .refl s, by simp [isCalled, hnone]⟩
  next hstring =>
    obtain ⟨column, -, rfl⟩ := Result.map_ok ht
    exact ⟨_, .single (List.mem_map_of_mem hoperator) _, by simp [isCalled, hstring]⟩
  next hother hv =>
    have hsum := isCalled_of_get? hv hother
    split at ht
    next heq =>
      cases ht
      have hcount : Output.IsCall (.count field) := trivial
      exact ⟨_, .single hcount _, by rw [hsum, decide_eq_true heq]; simp⟩
    next hne =>
      cases ht
      exact ⟨[], .refl s, by rw [hsum, decide_eq_false hne]; simp⟩

/-! ## Parts of ids -/

/-- Whether a part of a group's id is grouped by. -/
def isPart : Json → Bool
  | .string reference => reference ≠ ""
  | .object ((operator, .string _) :: _) => Fields.contains operator dateParts
  | _ => false

theorem groupKey_isSome {v : Json} {key : Option GroupKey} (h : groupKey v = .ok key) : key.isSome = isPart v := by
  unfold groupKey at h
  split at h
  next reference =>
    split at h
    next hempty =>
      cases h
      simp [isPart, hempty]
    next hne =>
      obtain ⟨column, -, rfl⟩ := Result.map_ok h
      simp [isPart, hne]
  next operator reference rest =>
    split at h
    next part hpart =>
      obtain ⟨column, -, rfl⟩ := Result.map_ok h
      simp [isPart, Fields.contains, hpart]
    next hnone =>
      cases h
      simp [isPart, Fields.contains, hnone]
  next hstring hobject =>
    cases h
    unfold isPart
    split
    · exact absurd rfl (hstring _)
    · exact absurd rfl (hobject _ _ _)
    · rfl

/-- The labels are the names of the parts that are grouped by. -/
theorem labels_groupKeysOf {fields : Document} {keys : List (String × GroupKey)} (h : groupKeysOf fields = .ok keys) :
    keys.map Prod.fst = Fields.names (fields.filter fun e => isPart e.2) := by
  induction fields generalizing keys with
  | nil =>
      cases h
      rfl
  | cons e rest ih =>
      obtain ⟨label, v⟩ := e
      obtain ⟨-, -, h⟩ := Result.bind_ok h
      obtain ⟨key, hkey, h⟩ := Result.bind_ok h
      obtain ⟨others, hothers, h⟩ := Result.bind_ok h
      cases h
      have hpart := groupKey_isSome hkey
      rw [List.map_append, ih hothers, List.filter_cons, ← hpart]
      cases key <;> rfl

/-! ## Entries of groups -/

/-- Whether an entry of a group selects a column. -/
def selectsColumn (field : String) : Json → Bool
  | .string reference => field = "_id" && reference ≠ ""
  | .object fields =>
    if field = "_id" && !fields.isEmpty then fields.any (isPart ·.2)
    else accumulators.any (isCalled fields ·.1)
  | _ => false

theorem selectsColumn_other {field : String} {value : Json} (hstring : ∀ reference, value ≠ .string reference)
    (hobject : ∀ fields, value ≠ .object fields) : selectsColumn field value = false := by
  unfold selectsColumn
  split
  · exact absurd rfl (hstring _)
  · exact absurd rfl (hobject _)
  · rfl

theorem groupEntry_of_ne {field : String} {value : Json} (hfield : field ≠ "_id")
    (h : groupEntry p field value = .ok q) :
    ∃ calls, AddsCalls p q calls ∧ (calls = [] ↔ selectsColumn field value = false) := by
  unfold groupEntry at h
  split at h
  next reference =>
    rw [if_neg (by simp [hfield])] at h
    cases h
    exact ⟨[], .refl p, by simp [selectsColumn, hfield]⟩
  next fields =>
    rw [if_neg (by simp [hfield])] at h
    obtain ⟨calls, hcalls, hempty⟩ := accumulate_ok h
    exact ⟨calls, hcalls, by simp [hempty, selectsColumn, hfield]⟩
  next hstring hobject =>
    cases h
    exact ⟨[], .refl p, iff_of_true rfl (selectsColumn_other hstring hobject)⟩

/-- The id of a group selects its keys and groups by them; a composite one leaves their labels to be gathered. -/
theorem groupEntry_id {value : Json} (h : groupEntry p "_id" value = .ok q) :
    ∃ keys : List (String × GroupKey), q.outputs = p.outputs ++ keys.map .ofKey ∧
      (p.groupBy = [] → q.groupBy = distinctKeys (keys.map Prod.snd)) ∧
      (p.groupKeys = [] → q.groupKeys = if value.isObject then keys.map Prod.fst else []) ∧
      (keys = [] ↔ selectsColumn "_id" value = false) := by
  unfold groupEntry at h
  split at h
  next reference =>
    split at h
    next hreference =>
      obtain ⟨column, -, rfl⟩ := Result.map_ok h
      exact ⟨[("objectId", .column column)], rfl, fun _ => rfl, id, by simpa [selectsColumn] using hreference⟩
    next hreference =>
      cases h
      exact ⟨[], by simp, id, id, by simpa [selectsColumn] using hreference⟩
  next fields =>
    split at h
    next hfields =>
      obtain ⟨keys, hkeys, rfl⟩ := Result.map_ok h
      have hlabels := labels_groupKeysOf hkeys
      refine ⟨keys, rfl, fun _ => rfl, fun hnone => congrArg (· ++ _) hnone, ?_⟩
      rw [selectsColumn, if_pos hfields, ← List.map_eq_nil_iff (f := Prod.fst), hlabels]
      simp [Fields.names]
    next hfields =>
      have hnil : fields = [] := by simpa using hfields
      subst hnil
      obtain ⟨calls, hcalls, hempty⟩ := accumulate_ok h
      have hcalled (e : String × String) : isCalled [] e.1 = false := rfl
      obtain rfl : calls = [] := hempty.mpr fun e _ => hcalled e
      refine ⟨[], by simpa using hcalls.outputs, hcalls.groupBy.trans, hcalls.groupKeys.trans, ?_⟩
      simp [selectsColumn, hcalled]
  next hstring hobject =>
    cases h
    exact ⟨[], by simp, id, fun hnone => by simpa using hnone, iff_of_true rfl (selectsColumn_other hstring hobject)⟩

/-! ## Groups -/

/-- Columns that are no fields are added to what is selected. -/
structure AddsGrouped (p q : Pipeline) (os : List Output) : Prop where
  outputs : q.outputs = p.outputs ++ os
  not_field : ∀ o ∈ os, ∀ name, o ≠ .field name

theorem AddsGrouped.refl (p : Pipeline) : AddsGrouped p p [] := ⟨(List.append_nil _).symm, List.forall_mem_nil _⟩

theorem AddsGrouped.trans {os os' : List Output} (h : AddsGrouped p q os) (h' : AddsGrouped q r os') :
    AddsGrouped p r (os ++ os') where
  outputs := by rw [h'.outputs, h.outputs, List.append_assoc]
  not_field := List.forall_mem_append.mpr ⟨h.not_field, h'.not_field⟩

theorem AddsCalls.grouped {calls : List Output} (h : AddsCalls p q calls) : AddsGrouped p q calls where
  outputs := h.outputs
  not_field := by
    rintro o ho name rfl
    exact h.isCall _ ho

theorem groupEntry_adds {field : String} {value : Json} (h : groupEntry p field value = .ok q) :
    ∃ os, AddsGrouped p q os ∧ (os = [] ↔ selectsColumn field value = false) := by
  by_cases hfield : field = "_id"
  · subst hfield
    obtain ⟨keys, houtputs, -, -, hempty⟩ := groupEntry_id h
    refine ⟨keys.map .ofKey, ⟨houtputs, List.forall_mem_map.mpr fun k _ name => ?_⟩, List.map_eq_nil_iff.trans hempty⟩
    exact Output.noConfusion
  · obtain ⟨calls, hcalls, hempty⟩ := groupEntry_of_ne hfield h
    exact ⟨calls, hcalls.grouped, hempty⟩

/-- The entries of a group. -/
def groupEntries : Option Json → Document
  | some (.object entries) => entries
  | _ => []

theorem group_adds {v : Option Json} (h : p.group v = .ok q) :
    ∃ os, AddsGrouped p q os ∧ (os = [] ↔ ∀ e ∈ groupEntries v, selectsColumn e.1 e.2 = false) := by
  unfold group at h
  split at h
  · cases h
    exact ⟨[], .refl p, iff_of_true rfl (List.forall_mem_nil _)⟩
  · exact Result.foldlM_adds AddsGrouped.refl AddsGrouped.trans (fun e _ s t ht => groupEntry_adds ht) h
  · cases h

/-- A selection of calls, with keys among them that are grouped by; a composite id leaves their labels. -/
structure GroupedBy (p : Pipeline) (composite : Bool) (before : List Output) (keys : List (String × GroupKey))
    (after : List Output) : Prop where
  outputs : p.outputs = before ++ keys.map .ofKey ++ after
  isCall : ∀ o ∈ before ++ after, o.IsCall
  groupBy : p.groupBy = distinctKeys (keys.map Prod.snd)
  groupKeys : p.groupKeys = if composite then keys.map Prod.fst else []

/-- Entries other than the id select calls. -/
theorem entries_addCalls {entries : Document} (hid : "_id" ∉ Fields.names entries)
    (h : entries.foldlM (fun p (field, value) => groupEntry p field value) p = .ok q) :
    ∃ calls, AddsCalls p q calls ∧ (calls = [] ↔ ∀ e ∈ entries, selectsColumn e.1 e.2 = false) := by
  refine Result.foldlM_adds AddsCalls.refl AddsCalls.trans (fun e he s t ht => groupEntry_of_ne ?_ ht) h
  exact fun hfield => hid (hfield ▸ List.mem_map_of_mem he)

/-- Whether the id of a group has parts. -/
def hasCompositeId (entries : Document) : Bool := (Fields.get? "_id" entries).any Json.isObject

/-- A group on its own: its calls, and its id wherever it stands among them. -/
theorem group_groupedBy {entries : Document} (hnodup : (Fields.names entries).Nodup)
    (h : empty.group (some (.object entries)) = .ok p) :
    ∃ before keys after, GroupedBy p (hasCompositeId entries) before keys after ∧
      (p.outputs = [] ↔ ∀ e ∈ entries, selectsColumn e.1 e.2 = false) := by
  have h : entries.foldlM (fun p (field, value) => groupEntry p field value) empty = .ok p := h
  cases hvalue : Fields.get? "_id" entries with
  | none =>
      obtain ⟨calls, hcalls, hempty⟩ := entries_addCalls (Fields.get?_eq_none_iff.mp hvalue) h
      have houtputs : p.outputs = calls := hcalls.outputs
      refine ⟨calls, [], [], ⟨by simpa using houtputs, by simpa using hcalls.isCall, hcalls.groupBy, ?_⟩, ?_⟩
      · rw [hcalls.groupKeys, hasCompositeId, hvalue]
        rfl
      · rw [houtputs, hempty]
  | some value =>
      -- The entries in front of the id and behind it select calls, the id its keys between them.
      obtain ⟨front, back, rfl⟩ := List.append_of_mem (Fields.mem_of_get?_eq_some hvalue)
      have hnames : (Fields.names front ++ "_id" :: Fields.names back).Nodup := by simpa [Fields.names] using hnodup
      obtain ⟨-, hid, hapart⟩ := List.nodup_append.mp hnames
      rw [List.foldlM_append] at h
      obtain ⟨p₁, h₁, h⟩ := Result.bind_ok h
      obtain ⟨p₂, h₂, h₃⟩ := Result.foldlM_cons_eq_ok_iff.mp h
      obtain ⟨before, hbefore, hempty₁⟩ := entries_addCalls (fun hmem => hapart _ hmem _ (.head _) rfl) h₁
      obtain ⟨keys, houtputs, hgroupBy, hgroupKeys, hempty₂⟩ := groupEntry_id h₂
      obtain ⟨after, hafter, hempty₃⟩ := entries_addCalls (List.nodup_cons.mp hid).1 h₃
      have hall : p.outputs = before ++ keys.map .ofKey ++ after := by
        rw [hafter.outputs, houtputs, hbefore.outputs]
        rfl
      refine ⟨before, keys, after, ⟨hall, ?_, ?_, ?_⟩, ?_⟩
      · exact List.forall_mem_append.mpr ⟨hbefore.isCall, hafter.isCall⟩
      · exact hafter.groupBy.trans (hgroupBy hbefore.groupBy)
      · rw [hafter.groupKeys, hgroupKeys hbefore.groupKeys, hasCompositeId, hvalue]
        rfl
      · rw [hall, List.append_eq_nil_iff, List.append_eq_nil_iff, List.map_eq_nil_iff, hempty₁, hempty₂, hempty₃,
          List.forall_mem_append, List.forall_mem_cons, and_assoc]

/-! ## Selections of pipelines -/

variable {schema : Schema} {stages : List Json}

theorem compile_selection (h : compile schema stages = .ok p) :
    stages.foldlM Selection.after empty.selection = .ok p.selection := by
  obtain ⟨d, hd, hshows⟩ := (compile_shows schema stages).exists_right h
  rw [hshows.selection]
  exact (Demand.run_eq_ok_iff.mp hd).selection

theorem selection_after_ok {s t : Selection} {v : Json} (h : s.after v = .ok t) :
    ∃ p q, (empty.withSelection s).group (v.get? "$group") = .ok p ∧ p.project (v.get? "$project") = .ok q ∧
      q.selection = t := by
  obtain ⟨p, hp, h⟩ := Result.bind_ok h
  obtain ⟨q, hq, h⟩ := Result.bind_ok h
  exact ⟨p, q, hp, hq, Except.ok.inj h⟩

/-- One group and no projection leave the selection of the group. -/
theorem compile_group (h : compile schema stages = .ok p) (hgroup : uses "$group" stages = 1)
    (hproject : uses "$project" stages = 0) :
    ∃ entries q, stages.filterMap (·.get? "$group") = [.object entries] ∧
      empty.group (some (.object entries)) = .ok q ∧ q.selection = p.selection := by
  have hnone : ∀ v ∈ stages, v.get? "$project" = none := by
    simpa [uses, List.countP_eq_zero] using hproject
  have hselective : stages.filter isSelective = stages.filter fun v => (v.get? "$group").isSome :=
    List.filter_congr fun v hv => by rw [isSelective, hnone v hv, Option.isSome_none, Bool.or_false]
  rw [uses, List.countP_eq_length_filter] at hgroup
  obtain ⟨v, hv⟩ := List.length_eq_one_iff.mp hgroup
  have hmem : v ∈ stages.filter fun v => (v.get? "$group").isSome := hv ▸ .head _
  obtain ⟨hvstages, hsome⟩ := List.mem_filter.mp hmem
  obtain ⟨g, hg⟩ := Option.isSome_iff_exists.mp hsome
  have hrun := compile_selection h
  rw [← Result.foldlM_filter after_idle, hselective, hv] at hrun
  obtain ⟨s, hs, hlast⟩ := Result.foldlM_cons_eq_ok_iff.mp hrun
  cases hlast
  obtain ⟨q, q', hq, hq', hselection⟩ := selection_after_ok hs
  rw [hnone v hvstages] at hq'
  cases hq'
  have hgroups : stages.filterMap (·.get? "$group") = [g] := by
    have hused : stages.filterMap (·.get? "$group") =
        (stages.filter fun v => (v.get? "$group").isSome).filterMap (·.get? "$group") := by
      rw [List.filterMap_filter]
      refine congrArg (stages.filterMap ·) (funext fun v => ?_)
      cases v.get? "$group" <;> rfl
    rw [hused, hv, List.filterMap_cons_some hg, List.filterMap_nil]
  rw [hg] at hq
  cases g with
  | object entries => exact ⟨entries, q, hgroups, hq, hselection⟩
  | _ => cases hq

/-! ## Statements -/

/-- What a statement selects. -/
def selectList (p : Pipeline) : List Fragment := orAll (p.outputs.map fun o => o.template.number 1)

/-- What a statement groups by. -/
def groupList (p : Pipeline) : List Fragment := p.groupBy.map fun k => k.template.number 1

/-- The statement of a pipeline, clause by clause. -/
theorem statement_sql (p : Pipeline) (schema : Schema) :
    (p.statement schema).sql = .text "SELECT " :: Sql.joinFragments ", " p.selectList ++
      .text " FROM " :: .name schema.className :: clauseOf " WHERE " p.filter.toList ++
      clauseOf " GROUP BY " p.groupList ++ clauseOf " ORDER BY " p.order ++ p.limit ++ p.offset := by
  unfold statement
  cases p.filter <;> simp [clauseOf, Sql.joinFragments, selectList, groupList]

theorem selectList_eq {selected : Bool} (h : p.outputs = [] ↔ selected = false) : p.selectList =
    if selected then p.outputs.map fun o => o.template.number 1 else [[.text "*"]] := by
  cases selected with
  | false => rw [selectList, h.mpr rfl]; rfl
  | true =>
      have hsome : p.outputs ≠ [] := fun hnone => Bool.noConfusion (h.mp hnone)
      rw [selectList, orAll, List.isEmpty_map, if_neg (by simpa using hsome), if_pos rfl]

theorem mem_groupList {keys : List (String × GroupKey)} (h : p.groupBy = distinctKeys (keys.map Prod.snd))
    {expression : Fragment} : expression ∈ p.groupList ↔ ∃ k ∈ keys, k.2.template.number 1 = expression := by
  rw [groupList, h, List.mem_map]
  constructor
  · rintro ⟨g, hg, rfl⟩
    obtain ⟨k, hk, rfl⟩ := List.mem_map.mp (mem_distinctKeys.mp hg)
    exact ⟨k, hk, rfl⟩
  · rintro ⟨k, hk, rfl⟩
    exact ⟨k.2, mem_distinctKeys.mpr (List.mem_map_of_mem hk), rfl⟩

/-- If no name occurs twice in it, a group that stands alone selects the parts of its id, each with its label, and calls
of functions, or all columns if it asks for none of these. What is grouped by are those parts, each once, and the labels
that are gathered are those of a composite id, in order; so there is a column for each. -/
theorem group_statement (h : compile schema stages = .ok p) (hgroup : uses "$group" stages = 1)
    (hproject : uses "$project" stages = 0)
    (hnodup : ∀ entries, .object entries ∈ stages.filterMap (·.get? "$group") → (Fields.names entries).Nodup) :
    ∃ entries, ∃ before after : List Output, ∃ keys : List (String × GroupKey),
      stages.filterMap (·.get? "$group") = [.object entries] ∧
      (p.statement schema).sql = .text "SELECT " :: Sql.joinFragments ", " p.selectList ++
        .text " FROM " :: .name schema.className :: clauseOf " WHERE " p.filter.toList ++
        clauseOf " GROUP BY " p.groupList ++ clauseOf " ORDER BY " p.order ++ p.limit ++ p.offset ∧
      p.selectList = (if entries.any fun e => selectsColumn e.1 e.2 then
        (before ++ keys.map Output.ofKey ++ after).map fun o : Output => o.template.number 1 else [[.text "*"]]) ∧
      (∀ o ∈ before ++ after, o.IsCall) ∧
      (∀ expression, expression ∈ p.groupList ↔ ∃ k ∈ keys, k.2.template.number 1 = expression) ∧
      p.groupList.Nodup ∧
      p.groupKeys = (if hasCompositeId entries then keys.map Prod.fst else []) ∧
      ∀ label ∈ p.groupKeys, ∃ expression ∈ p.groupList,
        expression ++ [.text " AS ", .name label] ∈ p.selectList := by
  obtain ⟨entries, q, hentries, hq, hselection⟩ := compile_group h hgroup hproject
  have hnames : (Fields.names entries).Nodup := hnodup entries (hentries ▸ .head _)
  obtain ⟨before, keys, after, hgrouped, hempty⟩ := group_groupedBy hnames hq
  have hoq : q.outputs = p.outputs := congrArg Selection.outputs hselection
  have hgq : q.groupBy = p.groupBy := congrArg Selection.groupBy hselection
  have hkq : q.groupKeys = p.groupKeys := congrArg Selection.groupKeys hselection
  have houtputs := hoq.symm.trans hgrouped.outputs
  have hgroupBy := hgq.symm.trans hgrouped.groupBy
  have hgroupKeys := hkq.symm.trans hgrouped.groupKeys
  have hselected : p.outputs = [] ↔ (entries.any fun e => selectsColumn e.1 e.2) = false := by
    rw [← hoq, hempty, List.any_eq_false]
    simp only [Bool.not_eq_true]
  have hlist := selectList_eq hselected
  refine ⟨entries, before, after, keys, hentries, statement_sql p schema, houtputs ▸ hlist, hgrouped.isCall,
    fun _ => mem_groupList hgroupBy, ?_, hgroupKeys, ?_⟩
  · rw [groupList, hgroupBy]
    exact (nodup_distinctKeys _).map GroupKey.template_injective
  · intro label hlabel
    have hkey : ∃ k ∈ keys, k.1 = label := by
      rw [hgroupKeys] at hlabel
      split at hlabel
      · exact List.mem_map.mp hlabel
      · cases hlabel
    obtain ⟨k, hk, rfl⟩ := hkey
    refine ⟨_, (mem_groupList hgroupBy).mpr ⟨k, hk, rfl⟩, ?_⟩
    have hmem : Output.ofKey k ∈ p.outputs := by
      rw [houtputs]
      exact List.mem_append_left _ (List.mem_append_right _ (List.mem_map_of_mem hk))
    rw [← Output.ofKey_number, selectList, orAll, List.isEmpty_map, if_neg (by simpa using List.ne_nil_of_mem hmem)]
    exact List.mem_map_of_mem hmem

/-- Posts of each day of a month and each title, where the day is asked for twice. -/
def byDay : Document :=
  [("count", .object [("$sum", .int 1)]),
    ("_id", .object [("day", .object [("$dayOfMonth", .string "$_created_at")]), ("title", .string "$title"),
      ("again", .object [("$dayOfMonth", .string "$_created_at")])]),
    ("last", .object [("$max", .string "$_updated_at")])]

theorem group_statement_byDay :
    ∃ p, compile titledPosts [.object [("$group", .object byDay)]] = .ok p ∧
      p.groupKeys = ["day", "title", "again"] ∧ p.groupList.length = 2 ∧ p.groupList.Nodup ∧
      ∀ label ∈ p.groupKeys, ∃ expression ∈ p.groupList,
        expression ++ [.text " AS ", .name label] ∈ p.selectList := by
  obtain ⟨p, hp, hkeys, hlength⟩ : ∃ p, compile titledPosts [.object [("$group", .object byDay)]] = .ok p ∧
      p.groupKeys = ["day", "title", "again"] ∧ p.groupList.length = 2 := ⟨_, rfl, rfl, rfl⟩
  have hnodup : ∀ entries, .object entries ∈ [Json.object [("$group", .object byDay)]].filterMap (·.get? "$group") →
      (Fields.names entries).Nodup := by
    intro entries hentries
    have hmem : Json.object entries ∈ [Json.object byDay] := hentries
    rw [List.mem_singleton, Json.object.injEq] at hmem
    subst hmem
    decide
  obtain ⟨entries, before, after, keys, -, -, -, -, -, hapart, -, hcolumns⟩ :=
    group_statement hp (by decide) (by decide) hnodup
  exact ⟨p, hp, hkeys, hlength, hapart, hcolumns⟩

/-- A group of all rows that calls no function selects every column of every row. -/
theorem group_all_rows :
    ∃ p, compile titledPosts [.object [("$group", .object [("_id", .null)])]] = .ok p ∧
      (p.statement titledPosts).text = "SELECT * FROM \"Post\"" ∧ p.selectList = [[.text "*"]] ∧
      ∀ o : Output, o.template.number 1 ∉ p.selectList := by
  refine ⟨_, rfl, rfl, rfl, fun o ho => ?_⟩
  have ho : o.template.number 1 = [.text "*"] := List.mem_singleton.mp ho
  rcases o with _ | ⟨_ | _, _⟩ | _ | _ <;>
    simp [Output.template, GroupKey.template, Sql.words, Sql.named, Template.number] at ho

end Pipeline

end Docstore.Query
