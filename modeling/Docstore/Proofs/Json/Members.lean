import Docstore.Fields
import Mathlib.Data.List.Basic

/-!
# Values under names

What is found under a name once values have been mapped, put together, chosen, set or removed.
-/

namespace Docstore

namespace Fields

variable {α β : Type}

theorem get?_cons_self (name : String) (value : α) (fs : Fields α) : get? name ((name, value) :: fs) = some value :=
  if_pos rfl

theorem get?_cons_of_ne {name other : String} (h : name ≠ other) (value : α) (fs : Fields α) :
    get? other ((name, value) :: fs) = get? other fs := if_neg h

theorem get?_map (f : α → β) (fs : Fields α) (key : String) :
    get? key (fs.map fun (name, a) => (name, f a)) = (get? key fs).map f := by
  induction fs with
  | nil => rfl
  | cons e rest ih =>
      obtain ⟨name, a⟩ := e
      rw [List.map_cons, get?, get?]
      split
      · rfl
      · exact ih

/-- Values that are mapped together with their names. -/
theorem get?_map_entries (f : String → α → β) (fs : Fields α) (key : String) :
    get? key (fs.map fun e => (e.1, f e.1 e.2)) = (get? key fs).map (f key) := by
  induction fs with
  | nil => rfl
  | cons e rest ih =>
      obtain ⟨name, a⟩ := e
      rw [List.map_cons, get?, get?]
      split
      next hname =>
        subst hname
        rfl
      next => exact ih

theorem insert_map (f : α → β) (fs : Fields α) (name : String) (a : α) :
    insert name (f a) (fs.map fun (k, v) => (k, f v)) = (fs.insert name a).map fun (k, v) => (k, f v) := by
  induction fs with
  | nil => rfl
  | cons e rest ih =>
      obtain ⟨key, v⟩ := e
      rw [List.map_cons, insert, insert]
      split
      · rfl
      · rw [ih]
        rfl

theorem get?_append (fs gs : Fields α) (name : String) : get? name (fs ++ gs) = (get? name fs).or (get? name gs) := by
  induction fs with
  | nil => rfl
  | cons e rest ih =>
      obtain ⟨key, a⟩ := e
      rw [List.cons_append, get?, get?]
      split
      · rfl
      · exact ih

theorem get?_filter (keeps : String → Bool) (fs : Fields α) (name : String) :
    get? name (fs.filter fun e => keeps e.1) = if keeps name then get? name fs else none := by
  induction fs with
  | nil => simp
  | cons e rest ih =>
      obtain ⟨key, a⟩ := e
      rw [List.filter_cons, get?]
      by_cases hkey : key = name
      · subst hkey
        by_cases hkeeps : keeps key = true <;> simp [hkeeps, get?, ih]
      · by_cases hkeeps : keeps key = true <;> simp [hkeeps, hkey, get?, ih]

theorem get?_eq_none_iff {fs : Fields α} {name : String} : get? name fs = none ↔ name ∉ names fs := by
  induction fs with
  | nil => exact iff_of_true rfl List.not_mem_nil
  | cons e rest ih =>
      obtain ⟨key, a⟩ := e
      rw [get?]
      split
      next hkey => exact iff_of_false (Option.some_ne_none a) fun hnot => hnot (hkey ▸ .head _)
      next hkey =>
        rw [ih]
        exact ⟨List.not_mem_cons_of_ne_of_not_mem (Ne.symm hkey),
          fun hnot => (List.ne_and_not_mem_of_not_mem_cons hnot).2⟩

theorem contains_iff {fs : Fields α} {name : String} : contains name fs = true ↔ name ∈ names fs := by
  rw [contains, ← not_iff_not, Bool.not_eq_true, Option.isSome_eq_false_iff, Option.isNone_iff_eq_none,
    get?_eq_none_iff]

/-- Where names are distinct, entries can be chosen by their values as well. -/
theorem get?_filter_of_nodup (keeps : String × α → Bool) {fs : Fields α} (h : (names fs).Nodup) (name : String) :
    get? name (fs.filter keeps) = (get? name fs).filter fun a => keeps (name, a) := by
  induction fs with
  | nil => rfl
  | cons e rest ih =>
      obtain ⟨key, a⟩ := e
      obtain ⟨hkey, hrest⟩ := List.nodup_cons.mp h
      rw [get?, List.filter_cons]
      by_cases hname : key = name
      · subst hname
        have hnone : get? key rest = none := get?_eq_none_iff.mpr hkey
        by_cases hkeeps : keeps (key, a) = true
        · simp [hkeeps, get?, Option.filter]
        · simp [hkeeps, ih hrest, hnone, Option.filter]
      · by_cases hkeeps : keeps (key, a) = true <;> simp [hkeeps, hname, get?, ih hrest]

theorem names_filter (keeps : String → Bool) (fs : Fields α) :
    names (fs.filter fun e => keeps e.1) = (names fs).filter keeps := List.filter_map.symm

theorem nodup_filter (keeps : String × α → Bool) {fs : Fields α} (h : (names fs).Nodup) :
    (names (fs.filter keeps)).Nodup :=
  h.sublist (List.filter_sublist.map _)

theorem mem_of_get?_eq_some {name : String} {a : α} {fs : Fields α} (h : get? name fs = some a) : (name, a) ∈ fs := by
  induction fs with
  | nil => cases h
  | cons e rest ih =>
      obtain ⟨key, b⟩ := e
      rw [get?] at h
      split at h
      next hkey =>
        cases h
        exact hkey ▸ .head _
      next => exact .tail _ (ih h)

theorem mem_insert {name : String} {value : α} {fs : Fields α} {e : String × α} (h : e ∈ insert name value fs) :
    e = (name, value) ∨ e ∈ fs := by
  induction fs with
  | nil => exact .inl (List.mem_singleton.mp h)
  | cons f rest ih =>
      obtain ⟨key, a⟩ := f
      rw [insert] at h
      split at h
      · exact (List.mem_cons.mp h).imp_right (.tail _)
      · rcases List.mem_cons.mp h with rfl | h
        · exact .inr (.head _)
        · exact (ih h).imp_right (.tail _)

theorem mem_names_insert {name other : String} {value : α} {fs : Fields α} (h : other ∈ names (insert name value fs)) :
    other = name ∨ other ∈ names fs := by
  obtain ⟨e, he, rfl⟩ := List.mem_map.mp h
  rcases mem_insert he with rfl | he
  · exact .inl rfl
  · exact .inr (List.mem_map_of_mem he)

theorem names_insert {name : String} {value : α} {fs : Fields α} :
    names (insert name value fs) = if name ∈ names fs then names fs else names fs ++ [name] := by
  induction fs with
  | nil => rfl
  | cons e rest ih =>
      obtain ⟨key, a⟩ := e
      rw [insert]
      split
      next hkey =>
        subst hkey
        exact (if_pos (.head _)).symm
      next hkey =>
        have hmem : name ∈ names ((key, a) :: rest) ↔ name ∈ names rest := by
          simp [names, Ne.symm hkey]
        have hcons : names ((key, a) :: insert name value rest) = key :: names (insert name value rest) := rfl
        rw [hcons, ih]
        simp only [hmem]
        split <;> rfl

theorem nodup_insert {name : String} {value : α} {fs : Fields α} (h : (names fs).Nodup) :
    (names (insert name value fs)).Nodup := by
  induction fs with
  | nil => exact List.pairwise_singleton _ _
  | cons e rest ih =>
      obtain ⟨key, a⟩ := e
      obtain ⟨hkey, hrest⟩ := List.nodup_cons.mp h
      rw [insert]
      split
      next hname =>
        subst hname
        exact List.nodup_cons.mpr ⟨hkey, hrest⟩
      next hname =>
        refine List.nodup_cons.mpr ⟨fun hmem => ?_, ih hrest⟩
        rcases mem_names_insert hmem with hsame | hmem
        · exact hname hsame
        · exact hkey hmem

/-! ## Setting and removing again -/

section

variable {name other : String} {value : α} {fs gs : Fields α}

theorem insert_of_get? (h : get? name fs = some value) : insert name value fs = fs := by
  induction fs with
  | nil => cases h
  | cons e rest ih =>
      obtain ⟨key, a⟩ := e
      rw [get?] at h
      rw [insert]
      split at h
      next hkey =>
        cases h
        rw [if_pos hkey, hkey]
      next hkey => rw [if_neg hkey, ih h]

theorem names_prefix_insert : names fs <+: names (insert name value fs) := by
  induction fs with
  | nil => exact List.nil_prefix
  | cons e rest ih =>
      obtain ⟨key, a⟩ := e
      rw [insert]
      split
      next hkey =>
        rw [← hkey]
        exact List.prefix_rfl
      next => exact (List.prefix_cons_inj key).mpr ih

theorem get?_erase_of_ne (h : other ≠ name) : get? other (erase name fs) = get? other fs := by
  induction fs with
  | nil => rfl
  | cons e rest ih =>
      obtain ⟨key, a⟩ := e
      rw [erase]
      split
      next hkey => rw [get?, if_neg (hkey ▸ Ne.symm h)]
      next => rw [get?, get?, ih]

theorem erase_of_not_mem (h : name ∉ names fs) : erase name fs = fs := by
  induction fs with
  | nil => rfl
  | cons e rest ih =>
      obtain ⟨hkey, hrest⟩ := List.ne_and_not_mem_of_not_mem_cons h
      rw [erase, if_neg (Ne.symm hkey), ih hrest]

theorem erase_sublist : (erase name fs).Sublist fs := by
  induction fs with
  | nil => exact .slnil
  | cons e rest ih =>
      obtain ⟨key, a⟩ := e
      rw [erase]
      split
      · exact List.sublist_cons_self _ _
      · exact ih.cons_cons (key, a)

theorem names_erase_sublist : (names (erase name fs)).Sublist (names fs) := erase_sublist.map Prod.fst

theorem names_erase : names (erase name fs) = (names fs).erase name := by
  induction fs with
  | nil => rfl
  | cons e rest ih =>
      obtain ⟨key, a⟩ := e
      rw [erase]
      split
      next hname =>
        subst hname
        exact (List.erase_cons_head key _).symm
      next hname =>
        have hcons : names ((key, a) :: erase name rest) = key :: names (erase name rest) := rfl
        rw [hcons, ih]
        exact (List.erase_cons_tail (by simpa using hname)).symm

theorem nodup_erase (h : (names fs).Nodup) : (names (erase name fs)).Nodup := h.sublist names_erase_sublist

theorem not_mem_names_erase (h : (names fs).Nodup) : name ∉ names (erase name fs) := by
  induction fs with
  | nil => exact List.not_mem_nil
  | cons e rest ih =>
      obtain ⟨key, a⟩ := e
      obtain ⟨hkey, hrest⟩ := List.nodup_cons.mp h
      rw [erase]
      split
      next hname => exact hname ▸ hkey
      next hname => exact List.not_mem_cons_of_ne_of_not_mem (Ne.symm hname) (ih hrest)

/-- Setting a name leaves the entries that are chosen, if none under the name is. -/
theorem filter_insert {keeps : String × α → Bool} (h : ∀ a, keeps (name, a) = false) :
    (insert name value fs).filter keeps = fs.filter keeps := by
  induction fs with
  | nil => exact List.filter_cons_of_neg (by rw [h]; exact Bool.false_ne_true)
  | cons e rest ih =>
      obtain ⟨key, a⟩ := e
      rw [insert]
      split
      next hname =>
        subst hname
        rw [List.filter_cons_of_neg (by simp [h]), List.filter_cons_of_neg (by simp [h])]
      next => rw [List.filter_cons, List.filter_cons, ih]

theorem filter_erase {keeps : String × α → Bool} (h : ∀ a, keeps (name, a) = false) :
    (erase name fs).filter keeps = fs.filter keeps := by
  induction fs with
  | nil => rfl
  | cons e rest ih =>
      obtain ⟨key, a⟩ := e
      rw [erase]
      split
      next hname =>
        subst hname
        exact (List.filter_cons_of_neg (by simp [h])).symm
      next => rw [List.filter_cons, List.filter_cons, ih]

def eraseAll (removed : List String) (fs : Fields α) : Fields α := removed.foldl (fun fs name => erase name fs) fs

variable {removed : List String}

theorem names_eraseAll_sublist : (names (eraseAll removed fs)).Sublist (names fs) := by
  induction removed generalizing fs with
  | nil => exact .refl _
  | cons name removed ih => exact ih.trans names_erase_sublist

theorem nodup_eraseAll (h : (names fs).Nodup) : (names (eraseAll removed fs)).Nodup := h.sublist names_eraseAll_sublist

theorem get?_eraseAll_of_not_mem (h : name ∉ removed) : get? name (eraseAll removed fs) = get? name fs := by
  induction removed generalizing fs with
  | nil => rfl
  | cons other removed ih =>
      obtain ⟨hother, hrest⟩ := List.ne_and_not_mem_of_not_mem_cons h
      exact (ih hrest).trans (get?_erase_of_ne hother)

theorem not_mem_names_eraseAll (hnodup : (names fs).Nodup) (h : name ∈ removed) :
    name ∉ names (eraseAll removed fs) := by
  induction removed generalizing fs with
  | nil => cases h
  | cons other removed ih =>
      rcases List.mem_cons.mp h with rfl | h
      · exact fun hmem => not_mem_names_erase hnodup (names_eraseAll_sublist.subset hmem)
      · exact ih (nodup_erase hnodup) h

theorem filter_eraseAll {keeps : String × α → Bool} (h : ∀ name ∈ removed, ∀ a, keeps (name, a) = false) :
    (eraseAll removed fs).filter keeps = fs.filter keeps := by
  induction removed generalizing fs with
  | nil => rfl
  | cons name removed ih =>
      obtain ⟨hname, hremoved⟩ := List.forall_mem_cons.mp h
      exact (ih hremoved).trans (filter_erase hname)

theorem get?_eraseAll (h : (names fs).Nodup) :
    get? name (eraseAll removed fs) = if name ∈ removed then none else get? name fs := by
  split
  next hname => exact get?_eq_none_iff.mpr (not_mem_names_eraseAll h hname)
  next hname => exact get?_eraseAll_of_not_mem hname

theorem eraseAll_eq_self (h : ∀ name ∈ removed, name ∉ names fs) : eraseAll removed fs = fs := by
  induction removed with
  | nil => rfl
  | cons name removed ih =>
      have herased : erase name fs = fs := erase_of_not_mem (h name (.head _))
      rw [show eraseAll (name :: removed) fs = eraseAll removed (erase name fs) from rfl, herased,
        ih fun other hother => h other (.tail _ hother)]

end

end Fields

end Docstore
