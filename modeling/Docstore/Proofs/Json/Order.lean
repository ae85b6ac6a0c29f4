import Docstore.Json.Basic
import Docstore.Proofs.Json.Members
import Mathlib.Data.List.Basic
import Mathlib.Data.List.Nodup

/-!
# The order of fields

Documents are compared without regard to the order of an object's fields. What a field holds does not depend on
the order, as long as no name stands twice (`get?_of_perm`).
-/

namespace Docstore

/-! ## Fields -/

namespace Fields

variable {α : Type} {fs gs : Fields α}

theorem get?_eq_some_iff (hnames : (fs.map Prod.fst).Nodup) (name : String) (v : α) :
    get? name fs = some v ↔ (name, v) ∈ fs := by
  induction fs with
  | nil => simp
  | cons f rest ih =>
      obtain ⟨k, w⟩ := f
      obtain ⟨hk, hrest⟩ := List.nodup_cons.mp hnames
      rw [get?]
      split
      · rename_i hname
        subst hname
        constructor
        · rintro ⟨⟩
          exact .head _
        · intro hmem
          rcases List.mem_cons.mp hmem with hmem | hmem
          · cases hmem
            rfl
          · exact absurd (List.mem_map_of_mem hmem) hk
      · rename_i hname
        rw [ih hrest, List.mem_cons, Prod.mk.injEq]
        simp [Ne.symm hname]

theorem get?_of_perm (h : fs.Perm gs) (hnames : (gs.map Prod.fst).Nodup) (name : String) :
    get? name fs = get? name gs := by
  have hnames' : (fs.map Prod.fst).Nodup := (h.map Prod.fst).nodup_iff.mpr hnames
  refine Option.ext fun v => ?_
  rw [get?_eq_some_iff hnames', get?_eq_some_iff hnames, h.mem_iff]

theorem perm_of_get? (hfs : (names fs).Nodup) (hgs : (names gs).Nodup)
    (h : ∀ name, get? name fs = get? name gs) : fs.Perm gs := by
  refine (List.perm_ext_iff_of_nodup (.of_map _ hfs) (.of_map _ hgs)).mpr fun e => ?_
  rw [← get?_eq_some_iff hfs e.1 e.2, ← get?_eq_some_iff hgs e.1 e.2, h]

/-- A field can be taken to the front. -/
theorem perm_cons_erase {name : String} {v : α} (h : get? name fs = some v) : fs.Perm ((name, v) :: erase name fs) := by
  induction fs with
  | nil => cases h
  | cons f rest ih =>
      obtain ⟨k, w⟩ := f
      rw [get?] at h
      rw [erase]
      split at h
      · rename_i hname
        cases h
        rw [if_pos hname, hname]
      · rename_i hname
        rw [if_neg hname]
        exact ((ih h).cons (k, w)).trans (.swap _ _ _)

theorem insert_append {name : String} {v : α} (h : name ∉ names fs) (gs : Fields α) :
    insert name v (fs ++ gs) = fs ++ insert name v gs := by
  induction fs with
  | nil => rfl
  | cons e rest ih =>
      obtain ⟨hkey, hrest⟩ := List.ne_and_not_mem_of_not_mem_cons h
      rw [List.cons_append, insert, if_neg (Ne.symm hkey), ih hrest, List.cons_append]

theorem insert_of_not_mem {name : String} {v : α} (h : name ∉ fs.map Prod.fst) :
    insert name v fs = fs ++ [(name, v)] := by
  calc insert name v fs = insert name v (fs ++ []) := by rw [List.append_nil]
    _ = fs ++ [(name, v)] := insert_append h []

/-- Fields under new names come last. -/
theorem insertAll_of_nodup (h : ((fs ++ gs).map Prod.fst).Nodup) : insertAll fs gs = fs ++ gs := by
  induction gs generalizing fs with
  | nil => exact (List.append_nil fs).symm
  | cons g gs ih =>
      obtain ⟨name, v⟩ := g
      have hname : name ∉ fs.map Prod.fst := by
        rw [List.map_append] at h
        exact fun hmem => (List.nodup_append.mp h).2.2 name hmem name (.head _) rfl
      have hsplit : fs ++ (name, v) :: gs = (fs ++ [(name, v)]) ++ gs := by simp
      rw [hsplit] at h ⊢
      calc insertAll fs ((name, v) :: gs) = insertAll (insert name v fs) gs := rfl
        _ = fs ++ [(name, v)] ++ gs := by rw [insert_of_not_mem hname, ih h]

theorem ofPairs_of_nodup (h : (fs.map Prod.fst).Nodup) : ofPairs fs = fs :=
  insertAll_of_nodup h

/-- Fields that are kept under their names keep the order of the names. -/
theorem names_filterMap_sublist {β : Type} {f : String × α → Option (String × β)}
    (h : ∀ e e', f e = some e' → e'.1 = e.1) (fs : Fields α) :
    ((fs.filterMap f).map Prod.fst).Sublist (fs.map Prod.fst) := by
  induction fs with
  | nil => exact .slnil
  | cons e rest ih =>
      cases he : f e with
      | none =>
          rw [List.filterMap_cons_none he]
          exact ih.cons e.1
      | some e' =>
          rw [List.filterMap_cons_some he, List.map_cons, h e e' he]
          exact ih.cons_cons e.1

/-! ## Setting all names of a list -/

section

variable {fs gs : Fields α}

theorem names_prefix_insertAll (gs : Fields α) : names fs <+: names (insertAll fs gs) := by
  induction gs generalizing fs with
  | nil => exact List.prefix_rfl
  | cons g gs ih => exact names_prefix_insert.trans ih

theorem nodup_insertAll (h : (names fs).Nodup) : (names (insertAll fs gs)).Nodup := by
  induction gs generalizing fs with
  | nil => exact h
  | cons g gs ih => exact ih (nodup_insert h)

theorem get?_insertAll (hnodup : (names gs).Nodup) (name : String) :
    get? name (insertAll fs gs) = (get? name gs).or (get? name fs) := by
  induction gs generalizing fs with
  | nil => rfl
  | cons e gs ih =>
      obtain ⟨key, v⟩ := e
      obtain ⟨hkey, hgs⟩ := List.nodup_cons.mp hnodup
      have hrest : get? name (insertAll fs ((key, v) :: gs)) = (get? name gs).or (get? name (insert key v fs)) :=
        ih hgs
      rw [hrest, get?]
      split
      next hname =>
        rw [← hname, get?_eq_none_iff.mpr hkey, get?_insert_self]
        rfl
      next hname => rw [get?_insert_of_ne (Ne.symm hname)]

theorem get?_insertAll_of_not_mem {name : String} (h : name ∉ names gs) :
    get? name (insertAll fs gs) = get? name fs := by
  induction gs generalizing fs with
  | nil => rfl
  | cons e gs ih =>
      obtain ⟨hname, hgs⟩ := List.ne_and_not_mem_of_not_mem_cons h
      exact (ih hgs).trans (get?_insert_of_ne hname e.2 fs)

/-- The last value that is set under a name is the one that is found. -/
theorem get?_ofPairs_last {name : String} {value : α} (before : Fields α) {after : Fields α}
    (h : name ∉ names after) : get? name (ofPairs (before ++ (name, value) :: after)) = some value := by
  have hsplit : ofPairs (before ++ (name, value) :: after) =
      insertAll (insert name value (ofPairs before)) after := List.foldl_append
  rw [hsplit, get?_insertAll_of_not_mem h, get?_insert_self]

theorem exists_last_of_mem_names {name : String} (h : name ∈ names fs) :
    ∃ before value after, fs = before ++ (name, value) :: after ∧ name ∉ names after := by
  induction fs with
  | nil => cases h
  | cons e rest ih =>
      by_cases hrest : name ∈ names rest
      · obtain ⟨before, value, after, rfl, hlast⟩ := ih hrest
        exact ⟨e :: before, value, after, rfl, hlast⟩
      · rcases List.mem_cons.mp h with rfl | hmem
        · exact ⟨[], e.2, rest, rfl, hrest⟩
        · exact absurd hmem hrest

theorem get?_ofPairs_eq_some_iff {name : String} {value : α} : get? name (ofPairs fs) = some value ↔
    ∃ before after, fs = before ++ (name, value) :: after ∧ name ∉ names after := by
  constructor
  · intro h
    have hname : name ∈ names fs := by
      by_contra hname
      cases h.symm.trans (get?_insertAll_of_not_mem hname)
    obtain ⟨before, value', after, rfl, hlast⟩ := exists_last_of_mem_names hname
    cases h.symm.trans (get?_ofPairs_last before hlast)
    exact ⟨before, after, rfl, hlast⟩
  · rintro ⟨before, after, rfl, hlast⟩
    exact get?_ofPairs_last before hlast

/-- Setting again what is set changes nothing. -/
theorem insertAll_eq_self (h : ∀ e ∈ gs, get? e.1 fs = some e.2) : insertAll fs gs = fs := by
  induction gs with
  | nil => rfl
  | cons e gs ih =>
      have hset : insert e.1 e.2 fs = fs := insert_of_get? (h e (.head _))
      rw [show insertAll fs (e :: gs) = insertAll (insert e.1 e.2 fs) gs from rfl, hset,
        ih fun e' he' => h e' (.tail _ he')]

/-- Behind names that do not occur, setting a name again replaces its value. -/
theorem insert_append_cons {name : String} {v w : α} (h : name ∉ names fs) :
    insert name w (fs ++ (name, v) :: gs) = fs ++ (name, w) :: gs := by
  rw [insert_append h, insert, if_pos rfl]

theorem insertAll_same_names (before : Fields α) (hnames : names gs = names fs)
    (hnodup : (names (before ++ fs)).Nodup) : insertAll (before ++ fs) gs = before ++ gs := by
  induction fs generalizing before gs with
  | nil =>
      rw [List.map_eq_nil_iff.mp hnames]
      rfl
  | cons e fs ih =>
      obtain ⟨name, v⟩ := e
      have hne : gs ≠ [] := by
        rintro rfl
        cases hnames
      obtain ⟨⟨name', w⟩, gs, rfl⟩ := List.exists_cons_of_ne_nil hne
      obtain ⟨rfl, hrest⟩ := List.cons.inj hnames
      have hbefore : name' ∉ names before := by
        intro hmem
        rw [names, List.map_append] at hnodup
        exact (List.nodup_append.mp hnodup).2.2 name' hmem name' (.head _) rfl
      have hcons : before ++ (name', w) :: fs = (before ++ [(name', w)]) ++ fs := by simp
      have hnodup' : (names ((before ++ [(name', w)]) ++ fs)).Nodup := by
        simpa [names] using hnodup
      calc insertAll (before ++ (name', v) :: fs) ((name', w) :: gs)
          = insertAll (insert name' w (before ++ (name', v) :: fs)) gs := rfl
        _ = insertAll ((before ++ [(name', w)]) ++ fs) gs := by rw [insert_append_cons hbefore, hcons]
        _ = before ++ (name', w) :: gs := by rw [ih _ hrest hnodup']; simp

/-- Fields that begin with the names of others replace them. -/
theorem insertAll_of_names_prefix (hbegin : names fs <+: names gs) (hnodup : (names gs).Nodup) :
    insertAll fs gs = gs := by
  obtain ⟨more, hmore⟩ := hbegin
  have hfront : names (gs.take fs.length) = names fs := by
    rw [names, List.map_take, show gs.map Prod.fst = _ from hmore.symm]
    simp [names]
  have hsplit : gs.take fs.length ++ gs.drop fs.length = gs := List.take_append_drop _ _
  have hnodup' : (names fs).Nodup := by
    rw [← hmore] at hnodup
    exact (List.nodup_append.mp hnodup).1
  have hreplaced : insertAll fs (gs.take fs.length) = gs.take fs.length :=
    insertAll_same_names [] hfront hnodup'
  calc insertAll fs gs
      = insertAll (insertAll fs (gs.take fs.length)) (gs.drop fs.length) := by
        rw [insertAll, insertAll, insertAll, ← List.foldl_append, hsplit]
    _ = gs := by rw [hreplaced, insertAll_of_nodup (by rwa [hsplit]), hsplit]

end

end Fields

/-! ## Documents -/

namespace Json

mutual

/-- Equal but for the order of the fields of objects. -/
inductive Same : Json → Json → Prop
  | refl (v : Json) : Same v v
  | array {items items' : List Json} (h : SameItems items items') : Same (.array items) (.array items')
  | object {fields fields' others : List (String × Json)} (hperm : fields.Perm fields')
      (h : SameFields fields' others) : Same (.object fields) (.object others)

inductive SameItems : List Json → List Json → Prop
  | nil : SameItems [] []
  | cons {v w : Json} {items items' : List Json} (h : Same v w) (hrest : SameItems items items') :
      SameItems (v :: items) (w :: items')

inductive SameFields : List (String × Json) → List (String × Json) → Prop
  | nil : SameFields [] []
  | cons {key : String} {v w : Json} {fields fields' : List (String × Json)} (h : Same v w)
      (hrest : SameFields fields fields') : SameFields ((key, v) :: fields) ((key, w) :: fields')

end

theorem SameFields.refl (fields : List (String × Json)) : SameFields fields fields := by
  induction fields with
  | nil => exact .nil
  | cons e rest ih => exact .cons (.refl e.2) ih

theorem SameFields.append {fields fields' others others' : List (String × Json)} (h : SameFields fields fields')
    (hothers : SameFields others others') : SameFields (fields ++ others) (fields' ++ others') := by
  match h with
  | .nil => exact hothers
  | .cons h hrest => exact .cons h (hrest.append hothers)

theorem Same.of_perm {fields fields' : List (String × Json)} (h : fields.Perm fields') :
    Same (.object fields) (.object fields') := .object h (.refl fields')

/-- Objects that hold the same under every name are the same. -/
theorem Same.of_get? {fields others : Document} (hfields : (Fields.names fields).Nodup)
    (hothers : (Fields.names others).Nodup)
    (h : ∀ name, Option.Rel Same (Fields.get? name fields) (Fields.get? name others)) :
    Same (.object fields) (.object others) := by
  obtain ⟨fields', hperm, hsame⟩ : ∃ fields', fields.Perm fields' ∧ SameFields fields' others := by
    induction others generalizing fields with
    | nil =>
        cases fields with
        | nil => exact ⟨[], .nil, .nil⟩
        | cons e rest =>
            obtain ⟨key, v⟩ := e
            have hhead := h key
            rw [Fields.get?_cons_self] at hhead
            cases hhead
    | cons e others ih =>
        obtain ⟨key, w⟩ := e
        obtain ⟨hkey, hrest⟩ := List.nodup_cons.mp hothers
        have hhead := h key
        rw [Fields.get?_cons_self] at hhead
        obtain ⟨v, hv, hsame⟩ : ∃ v, Fields.get? key fields = some v ∧ Same v w := by
          cases hv : Fields.get? key fields with
          | none => rw [hv] at hhead; cases hhead
          | some v =>
              rw [hv] at hhead
              cases hhead with
              | some hsame => exact ⟨v, rfl, hsame⟩
        -- Without the first of the others' fields, both objects still hold the same under every name.
        obtain ⟨fields', hperm, hfields'⟩ := ih (Fields.nodup_erase hfields) hrest fun name => by
          by_cases hname : name = key
          · subst hname
            rw [Fields.get?_eq_none_iff.mpr (Fields.not_mem_names_erase hfields), Fields.get?_eq_none_iff.mpr hkey]
            exact .none
          · have hother := h name
            rw [Fields.get?_cons_of_ne (Ne.symm hname)] at hother
            rwa [Fields.get?_erase_of_ne hname]
        exact ⟨(key, v) :: fields', (Fields.perm_cons_erase hv).trans (hperm.cons _), .cons hsame hfields'⟩
  exact .object hperm hsame

/-- An object with exactly these fields, in any order. -/
def HasExactly (v : Json) (fields : Document) : Prop := ∃ fields', v = .object fields' ∧ fields'.Perm fields

namespace HasExactly

variable {v : Json} {fields : Document}

theorem get? (h : v.HasExactly fields) (hnames : (fields.map Prod.fst).Nodup) (key : String) :
    v.get? key = Fields.get? key fields := by
  obtain ⟨fields', rfl, hperm⟩ := h
  exact Fields.get?_of_perm hperm hnames key

theorem same (h : v.HasExactly fields) : Same (.object fields) v := by
  obtain ⟨fields', rfl, hperm⟩ := h
  exact .of_perm hperm.symm

theorem isNull (h : v.HasExactly fields) : v.isNull = false := by
  obtain ⟨fields', rfl, -⟩ := h
  rfl

end HasExactly

end Json

end Docstore
