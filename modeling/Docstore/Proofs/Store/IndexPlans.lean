import Docstore.Store.Indexes
import Docstore.Proofs.Results
import Docstore.Proofs.Json.Order
import Mathlib.Data.List.Induction

/-!
# Plans of index changes

What is planned of the indexes of a class does not depend on the order of what was submitted. Every change is looked at
beside the changes before it; since none of those is of the same index, it could as well be looked at beside the indexes
that the class has (`plan_eq_ok_iff`).
-/

namespace Docstore

namespace Fields

variable {α : Type} {fs : Fields α} {name : String}

theorem erase_of_nodup (h : (names fs).Nodup) : erase name fs = fs.filter fun e => e.1 ≠ name := by
  induction fs with
  | nil => rfl
  | cons e rest ih =>
      obtain ⟨key, a⟩ := e
      obtain ⟨hkey, hrest⟩ := List.nodup_cons.mp h
      by_cases heq : key = name
      · subst heq
        have hkept : rest.filter (fun e => e.1 ≠ key) = rest :=
          List.filter_eq_self.mpr fun e he => decide_eq_true fun hname => hkey (List.mem_map.mpr ⟨e, he, hname⟩)
        rw [erase, if_pos rfl, List.filter_cons_of_neg (by simp), hkept]
      · rw [erase, if_neg heq, List.filter_cons_of_pos (by simp [heq]), ih hrest]

theorem erase_append (fs : Fields α) {gs : Fields α} (h : name ∉ names gs) :
    erase name (fs ++ gs) = erase name fs ++ gs := by
  induction fs with
  | nil => exact erase_of_not_mem h
  | cons e rest ih =>
      obtain ⟨key, a⟩ := e
      by_cases heq : key = name
      · rw [List.cons_append, erase, if_pos heq, erase, if_pos heq]
      · rw [List.cons_append, erase, if_neg heq, erase, if_neg heq, ih, List.cons_append]

end Fields

namespace Index.Changes

open Fields (names)

variable {existing : Fields Document} {fields : Fields Field} {submitted submitted' : Document}
  {name : String} {index : Json} {keys : Document} {c c' : Changes}

/-- The indexes that changes are planned against: those that a class has, the default one if it has none. -/
def base (existing : Fields Document) : Fields Document := if existing.isEmpty then defaults else existing

theorem start_eq (existing : Fields Document) : start existing = ⟨[], [], base existing⟩ := rfl

theorem nodup_base (h : (names existing).Nodup) : (names (base existing)).Nodup := by
  rw [base]
  split
  · exact List.nodup_singleton _
  · exact h

/-! ## One change -/

/-- A change that asks for an index to be deleted. -/
def IsDeletion (index : Json) : Prop := index.operation? = some "Delete"

instance (index : Json) : Decidable (IsDeletion index) := inferInstanceAs (Decidable (_ = _))

/-- A change that can be made to indexes: one of them is deleted, or one with a new name is over declared fields. -/
inductive Admissible (indexes : Fields Document) (fields : Fields Field) : String × Json → Prop
  | deletion {name : String} {index : Json} (hdelete : IsDeletion index) (hthere : name ∈ names indexes) :
      Admissible indexes fields (name, index)
  | insertion {name : String} {keys : Document} (hinsert : ¬IsDeletion (.object keys)) (hnew : name ∉ names indexes)
      (hdeclared : ∀ key ∈ names keys, key ∈ names fields) : Admissible indexes fields (name, .object keys)

/-- The keys of the index that a change inserts. -/
def keys? (index : Json) : Option Document :=
  if IsDeletion index then none else match index with
  | .object keys => some keys
  | _ => none

theorem keys?_of_deletion (h : IsDeletion index) : keys? index = none := if_pos h

theorem keys?_of_insertion (h : ¬IsDeletion (.object keys)) : keys? (.object keys) = some keys := if_neg h

theorem keys?_eq_some_iff : keys? index = some keys ↔ index = .object keys ∧ ¬IsDeletion index := by
  constructor
  · intro h
    unfold keys? at h
    split at h
    next => cases h
    next hinsert =>
      cases index with
      | object fields =>
          cases h
          exact ⟨rfl, hinsert⟩
      | _ => cases h
  · rintro ⟨rfl, h⟩
    exact keys?_of_insertion h

/-- What a change makes of a plan. -/
def after (c : Changes) (name : String) (index : Json) : Changes :=
  match keys? index with
  | some keys =>
      { c with indexes := Fields.insert name keys c.indexes, inserted := Fields.insert name keys c.inserted }
  | none => { c with indexes := Fields.erase name c.indexes, deleted := c.deleted ++ [name] }

theorem after_of_deletion (h : IsDeletion index) :
    c.after name index = ⟨c.inserted, c.deleted ++ [name], Fields.erase name c.indexes⟩ := by
  rw [after, keys?_of_deletion h]

theorem after_of_insertion (h : ¬IsDeletion (.object keys)) :
    c.after name (.object keys) =
      ⟨Fields.insert name keys c.inserted, c.deleted, Fields.insert name keys c.indexes⟩ := by
  rw [after, keys?_of_insertion h]

theorem step_of_deletion (h : IsDeletion index) (hthere : name ∈ names c.indexes) :
    c.step fields name index = .ok (c.after name index) := by
  have hdelete : (index.operation? == some "Delete") = true := beq_iff_eq.mpr h
  simp [step, hdelete, Fields.contains_iff.mpr hthere, after_of_deletion h]

theorem step_of_insertion (h : ¬IsDeletion (.object keys)) (hnew : name ∉ names c.indexes)
    (hdeclared : ∀ key ∈ names keys, key ∈ names fields) :
    c.step fields name (.object keys) = .ok (c.after name (.object keys)) := by
  have hinsert : ((Json.object keys).operation? == some "Delete") = false := beq_eq_false_iff_ne.mpr h
  have hmissing : Fields.contains name c.indexes = false :=
    Bool.eq_false_iff.mpr fun hthere => hnew (Fields.contains_iff.mp hthere)
  have hfind : (names keys).find? (fun key => !Fields.contains key fields) = none :=
    List.find?_eq_none.mpr fun key hkey => by simp [Fields.contains_iff.mpr (hdeclared key hkey)]
  simp [step, hinsert, hmissing, hfind, after_of_insertion h]

theorem admissible_of_step (h : c.step fields name index = .ok c') : Admissible c.indexes fields (name, index) := by
  unfold step at h
  by_cases hdelete : IsDeletion index
  · refine .deletion hdelete (Fields.contains_iff.mp ?_)
    have heq : (index.operation? == some "Delete") = true := beq_iff_eq.mpr hdelete
    by_contra hmissing
    rw [Bool.not_eq_true] at hmissing
    simp [heq, hmissing, fail] at h
  · have heq : (index.operation? == some "Delete") = false := beq_eq_false_iff_ne.mpr hdelete
    have hnew : name ∉ names c.indexes := by
      intro hthere
      simp [heq, Fields.contains_iff.mpr hthere, fail] at h
    have hmissing : Fields.contains name c.indexes = false :=
      Bool.eq_false_iff.mpr fun hthere => hnew (Fields.contains_iff.mp hthere)
    simp only [heq, hmissing, Bool.and_false, Bool.not_false, Bool.and_true, Bool.false_eq_true, if_false] at h
    cases index with
    | object keys =>
        dsimp only at h
        split at h
        next => cases h
        next hfind =>
          refine .insertion hdelete hnew fun key hkey => Fields.contains_iff.mp ?_
          simpa using List.find?_eq_none.mp hfind key hkey
    | _ => simp [fail] at h

/-- A change is planned just if it can be made to the indexes as they are by then. -/
theorem step_eq_ok_iff :
    c.step fields name index = .ok c' ↔ Admissible c.indexes fields (name, index) ∧ c' = c.after name index := by
  have hstep (h : Admissible c.indexes fields (name, index)) :
      c.step fields name index = .ok (c.after name index) := by
    cases h with
    | deletion hdelete hthere => exact step_of_deletion hdelete hthere
    | insertion hinsert hnew hdeclared => exact step_of_insertion hinsert hnew hdeclared
  constructor
  · intro h
    have hadmissible := admissible_of_step h
    rw [hstep hadmissible] at h
    exact ⟨hadmissible, (Except.ok.inj h).symm⟩
  · rintro ⟨h, rfl⟩
    exact hstep h

/-! ## All changes -/

def deletions (submitted : Document) : List String := names (submitted.filter fun e => IsDeletion e.2)

def insertions (submitted : Document) : Fields Document :=
  submitted.filterMap fun (name, index) => (keys? index).map fun keys => (name, keys)

/-- What is planned, told of everything that was submitted at once. -/
def planned (indexes : Fields Document) (submitted : Document) : Changes where
  inserted := insertions submitted
  deleted := deletions submitted
  indexes := (indexes.filter fun e => e.1 ∉ deletions submitted) ++ insertions submitted

theorem planned_nil (indexes : Fields Document) : planned indexes [] = ⟨[], [], indexes⟩ := by
  have hkept : indexes.filter (fun e => e.1 ∉ deletions []) = indexes :=
    List.filter_eq_self.mpr fun _ _ => decide_eq_true List.not_mem_nil
  rw [planned, hkept]
  exact congrArg (Changes.mk [] []) (List.append_nil indexes)

theorem mem_deletions : name ∈ deletions submitted ↔ ∃ index, (name, index) ∈ submitted ∧ IsDeletion index := by
  simp [deletions, names]

theorem mem_insertions : (name, keys) ∈ insertions submitted ↔
    (name, .object keys) ∈ submitted ∧ ¬IsDeletion (.object keys) := by
  simp only [insertions, List.mem_filterMap, Option.map_eq_some_iff, keys?_eq_some_iff, Prod.mk.injEq, Prod.exists]
  constructor
  · rintro ⟨_, _, hmem, _, ⟨rfl, hinsert⟩, rfl, rfl⟩
    exact ⟨hmem, hinsert⟩
  · rintro ⟨hmem, hinsert⟩
    exact ⟨name, _, hmem, keys, ⟨rfl, hinsert⟩, rfl, rfl⟩

theorem deletions_sublist : (deletions submitted).Sublist (names submitted) := List.filter_sublist.map Prod.fst

theorem names_insertions_sublist : (names (insertions submitted)).Sublist (names submitted) := by
  induction submitted with
  | nil => exact .slnil
  | cons e rest ih =>
      obtain ⟨name, index⟩ := e
      cases hkeys : keys? index with
      | none =>
          rw [insertions, List.filterMap_cons_none (by simp [hkeys])]
          exact ih.cons name
      | some keys =>
          rw [insertions, List.filterMap_cons_some (by simp [hkeys]; rfl)]
          exact ih.cons_cons name

/-- The indexes by which changes after others are looked at have the same names, but for those of the others. -/
theorem mem_names_planned {indexes : Fields Document} (h : name ∉ names submitted) :
    name ∈ names (planned indexes submitted).indexes ↔ name ∈ names indexes := by
  have hdeleted : name ∉ deletions submitted := fun hname => h (deletions_sublist.subset hname)
  have hinserted : name ∉ names (insertions submitted) := fun hname => h (names_insertions_sublist.subset hname)
  have hnames : names (planned indexes submitted).indexes =
      (names indexes).filter (fun other => other ∉ deletions submitted) ++ names (insertions submitted) := by
    rw [← Fields.names_filter fun other => decide (other ∉ deletions submitted)]
    exact List.map_append
  rw [hnames, List.mem_append, List.mem_filter]
  simp [hdeleted, hinserted]

theorem admissible_planned_iff {indexes : Fields Document} (h : name ∉ names submitted) :
    Admissible (planned indexes submitted).indexes fields (name, index) ↔ Admissible indexes fields (name, index) := by
  constructor
  · rintro (⟨hdelete, hthere⟩ | ⟨hinsert, hnew, hdeclared⟩)
    · exact .deletion hdelete ((mem_names_planned h).mp hthere)
    · exact .insertion hinsert (mt (mem_names_planned h).mpr hnew) hdeclared
  · rintro (⟨hdelete, hthere⟩ | ⟨hinsert, hnew, hdeclared⟩)
    · exact .deletion hdelete ((mem_names_planned h).mpr hthere)
    · exact .insertion hinsert (mt (mem_names_planned h).mp hnew) hdeclared

theorem planned_concat {indexes : Fields Document} (hindexes : (names indexes).Nodup) (hother : name ∉ names submitted)
    (h : Admissible indexes fields (name, index)) :
    planned indexes (submitted ++ [(name, index)]) = (planned indexes submitted).after name index := by
  have hinserted : name ∉ names (insertions submitted) := fun hname => hother (names_insertions_sublist.subset hname)
  cases h with
  | deletion hdelete hthere =>
      have hdeletions : deletions (submitted ++ [(name, index)]) = deletions submitted ++ [name] := by
        simp [deletions, names, hdelete]
      have hinsertions : insertions (submitted ++ [(name, index)]) = insertions submitted := by
        simp [insertions, keys?_of_deletion hdelete]
      have hindexes' : indexes.filter (fun e => e.1 ∉ deletions submitted ++ [name]) =
          Fields.erase name (indexes.filter fun e => e.1 ∉ deletions submitted) := by
        rw [Fields.erase_of_nodup (Fields.nodup_filter _ hindexes), List.filter_filter]
        refine List.filter_congr fun e _ => ?_
        simp [and_comm]
      rw [after_of_deletion hdelete, planned, hdeletions, hinsertions, hindexes', planned,
        Fields.erase_append _ hinserted]
  | @insertion name keys hinsert hnew hdeclared =>
      have hdeletions : deletions (submitted ++ [(name, .object keys)]) = deletions submitted := by
        simp [deletions, hinsert]
      have hinsertions : insertions (submitted ++ [(name, .object keys)]) = insertions submitted ++ [(name, keys)] := by
        simp [insertions, keys?_of_insertion hinsert]
      rw [after_of_insertion hinsert, planned, hdeletions, hinsertions]
      rw [Fields.insert_of_not_mem (mt (mem_names_planned hother).mp hnew), planned,
        Fields.insert_of_not_mem hinserted, List.append_assoc]

theorem plan_concat (submitted : Document) : plan (submitted ++ [(name, index)]) existing fields =
    (plan submitted existing fields).bind fun c => c.step fields name index := by
  rw [plan, plan, List.foldlM_append]
  refine congrArg (Except.bind _) (funext fun c => ?_)
  rw [List.foldlM_cons]
  exact bind_pure _

/-- What was submitted is planned just if every change can be made to the indexes that the class has. -/
theorem plan_eq_ok_iff (hexisting : (names existing).Nodup) (hsubmitted : (names submitted).Nodup) :
    plan submitted existing fields = .ok c ↔
      (∀ e ∈ submitted, Admissible (base existing) fields e) ∧ c = planned (base existing) submitted := by
  induction submitted using List.reverseRecOn generalizing c with
  | nil =>
      rw [planned_nil, ← start_eq]
      exact ⟨fun h => ⟨List.forall_mem_nil _, (Except.ok.inj h).symm⟩, fun h => congrArg Except.ok h.2.symm⟩
  | append_singleton before e ih =>
      obtain ⟨name, index⟩ := e
      have hnames : names (before ++ [(name, index)]) = names before ++ [name] := List.map_append
      rw [hnames, List.nodup_append] at hsubmitted
      obtain ⟨hbefore, -, hdisjoint⟩ := hsubmitted
      have hother : name ∉ names before := fun h => hdisjoint name h name (.head _) rfl
      rw [plan_concat, Result.bind_eq_ok_iff, List.forall_mem_append]
      simp only [ih hbefore, step_eq_ok_iff, List.forall_mem_singleton]
      constructor
      · rintro ⟨_, ⟨hbefore, rfl⟩, hlast, rfl⟩
        have hlast := (admissible_planned_iff hother).mp hlast
        exact ⟨⟨hbefore, hlast⟩, (planned_concat (nodup_base hexisting) hother hlast).symm⟩
      · rintro ⟨⟨hbefore, hlast⟩, rfl⟩
        exact ⟨_, ⟨hbefore, rfl⟩, (admissible_planned_iff hother).mpr hlast,
          planned_concat (nodup_base hexisting) hother hlast⟩

variable {indexes : Fields Document}

theorem deletions_perm (h : submitted'.Perm submitted) : (deletions submitted').Perm (deletions submitted) :=
  (h.filter _).map Prod.fst

theorem insertions_perm (h : submitted'.Perm submitted) : (insertions submitted').Perm (insertions submitted) :=
  h.filterMap _

theorem planned_indexes_perm (h : submitted'.Perm submitted) :
    (planned indexes submitted').indexes.Perm (planned indexes submitted).indexes := by
  have hkept : (fun e : String × Document => decide (e.1 ∉ deletions submitted')) =
      fun e => decide (e.1 ∉ deletions submitted) :=
    funext fun _ => decide_eq_decide.mpr (not_congr (deletions_perm h).mem_iff)
  rw [planned, hkept]
  exact (insertions_perm h).append_left _

theorem nodup_planned (hindexes : (names indexes).Nodup) (hsubmitted : (names submitted).Nodup)
    (hnew : (names (insertions submitted)).Disjoint (names indexes)) :
    (names (planned indexes submitted).indexes).Nodup := by
  have hnames : names (planned indexes submitted).indexes =
      names (indexes.filter fun e => e.1 ∉ deletions submitted) ++ names (insertions submitted) := List.map_append
  rw [hnames]
  refine List.Nodup.append (Fields.nodup_filter _ hindexes) (hsubmitted.sublist names_insertions_sublist) ?_
  exact fun name hkept hinserted => hnew hinserted ((List.filter_sublist.map Prod.fst).subset hkept)

/-- What changes make of indexes: some are deleted, and new ones come behind those that are kept as they were. -/
structure Fits (indexes : Fields Document) (submitted : Document) (c : Changes) : Prop where
  deleted : ∀ name, name ∈ c.deleted ↔ ∃ index, (name, index) ∈ submitted ∧ IsDeletion index
  inserted : ∀ name keys, (name, keys) ∈ c.inserted ↔
    (name, .object keys) ∈ submitted ∧ ¬IsDeletion (.object keys)
  apart : c.deleted.Disjoint (names c.inserted)
  there : c.deleted ⊆ names indexes
  new : (names c.inserted).Disjoint (names indexes)
  indexes : c.indexes = (indexes.filter fun e => e.1 ∉ c.deleted) ++ c.inserted
  distinct : (names c.indexes).Nodup

theorem fits_planned (hindexes : (names indexes).Nodup) (hsubmitted : (names submitted).Nodup)
    (h : ∀ e ∈ submitted, Admissible indexes fields e) : (planned indexes submitted).Fits indexes submitted := by
  have hthere : deletions submitted ⊆ names indexes := by
    intro name hname
    obtain ⟨index, hmem, hdelete⟩ := mem_deletions.mp hname
    cases h _ hmem with
    | deletion _ hthere => exact hthere
    | insertion hinsert => exact absurd hdelete hinsert
  have hnew : (names (insertions submitted)).Disjoint (names indexes) := by
    intro name hname
    obtain ⟨⟨name, keys⟩, he, rfl⟩ := List.mem_map.mp hname
    obtain ⟨hmem, hinsert⟩ := mem_insertions.mp he
    cases h _ hmem with
    | deletion hdelete => exact absurd hdelete hinsert
    | insertion _ hnew => exact hnew
  exact {
    deleted := fun _ => mem_deletions
    inserted := fun _ _ => mem_insertions
    apart := fun _ hdeleted hinserted => hnew hinserted (hthere hdeleted)
    there := hthere
    new := hnew
    indexes := rfl
    distinct := nodup_planned hindexes hsubmitted hnew }

/-- Two plans that differ in the order of what is deleted, inserted and there afterwards. -/
structure Alike (c c' : Changes) : Prop where
  deleted : c.deleted.Perm c'.deleted
  inserted : c.inserted.Perm c'.inserted
  indexes : ∀ name, Fields.get? name c.indexes = Fields.get? name c'.indexes

/-- Changes are planned just if each can be made to the indexes that the class has, in whatever order they come. -/
theorem plan_order_independent (hexisting : (names existing).Nodup) (hsubmitted : (names submitted).Nodup) :
    ((∃ c, plan submitted existing fields = .ok c) ↔ ∀ e ∈ submitted, Admissible (base existing) fields e) ∧
      (∀ c, plan submitted existing fields = .ok c → c.Fits (base existing) submitted) ∧
      ∀ submitted', submitted'.Perm submitted →
        ((∃ c', plan submitted' existing fields = .ok c') ↔ ∃ c, plan submitted existing fields = .ok c) ∧
          ∀ c c', plan submitted existing fields = .ok c → plan submitted' existing fields = .ok c' → c'.Alike c := by
  have hok {submitted} (h : (names submitted).Nodup) : (∃ c, plan submitted existing fields = .ok c) ↔
      ∀ e ∈ submitted, Admissible (base existing) fields e := by
    simp only [plan_eq_ok_iff hexisting h, exists_and_left, exists_eq, and_true]
  have hfits {c} (h : plan submitted existing fields = .ok c) : c.Fits (base existing) submitted := by
    obtain ⟨hadmissible, rfl⟩ := (plan_eq_ok_iff hexisting hsubmitted).mp h
    exact fits_planned (nodup_base hexisting) hsubmitted hadmissible
  refine ⟨hok hsubmitted, fun c => hfits, fun submitted' hperm => ?_⟩
  have hsubmitted' : (names submitted').Nodup := (hperm.map Prod.fst).nodup_iff.mpr hsubmitted
  refine ⟨?_, fun c c' hc hc' => ?_⟩
  · rw [hok hsubmitted', hok hsubmitted]
    simp only [hperm.mem_iff]
  · have hdistinct := (hfits hc).distinct
    obtain ⟨-, rfl⟩ := (plan_eq_ok_iff hexisting hsubmitted).mp hc
    obtain ⟨-, rfl⟩ := (plan_eq_ok_iff hexisting hsubmitted').mp hc'
    exact ⟨deletions_perm hperm, insertions_perm hperm, Fields.get?_of_perm (planned_indexes_perm hperm) hdistinct⟩

/-- The index that a class has to begin with is deleted. -/
def dropFirst : String × Json := ("_id_", .object [("__op", .string "Delete")])

/-- An index over titles is inserted. -/
def addTitles : String × Json := ("title_1", .object [("title", .int 1)])

theorem plan_order_independent_titles :
    (names ([] : Fields Document)).Nodup ∧ (names [dropFirst, addTitles]).Nodup ∧
      ∃ c c', plan [dropFirst, addTitles] [] [("title", .ofType .string)] = .ok c ∧
        plan [addTitles, dropFirst] [] [("title", .ofType .string)] = .ok c' ∧
        c.Fits defaults [dropFirst, addTitles] ∧ c'.Alike c := by
  have hexisting : (names ([] : Fields Document)).Nodup := List.nodup_nil
  have hsubmitted : (names [dropFirst, addTitles]).Nodup := by decide
  obtain ⟨hok, hfits, hperm⟩ :=
    @plan_order_independent [] [("title", .ofType .string)] [dropFirst, addTitles] hexisting hsubmitted
  have hadmissible : ∀ e ∈ [dropFirst, addTitles], Admissible defaults [("title", .ofType .string)] e := by
    rw [List.forall_mem_cons, List.forall_mem_singleton]
    exact ⟨.deletion (by decide) (by decide), .insertion (by decide) (by decide) (by decide)⟩
  obtain ⟨c, hc⟩ := hok.mpr hadmissible
  obtain ⟨hok', halike⟩ := hperm [addTitles, dropFirst] (.swap _ _ _)
  obtain ⟨c', hc'⟩ := hok'.mpr ⟨c, hc⟩
  exact ⟨hexisting, hsubmitted, c, c', hc, hc', hfits c hc, halike c c' hc hc'⟩

end Index.Changes

end Docstore
