import Docstore.Proofs.Write.Columns
import Docstore.Proofs.Write.Paths

/-!
# Auth data in updates

Entries of auth data have keys of their own, which lead to places in one object. Where such a place is to be removed,
the object that is written for all of them holds nothing there (`removes_of_authPlace?`).
-/

namespace Docstore

namespace Write

/-! ## Folded entries -/

/-- Where a key leads to in the object of auth data. -/
def authPlace? (key : String) : Option (List String) :=
  match Text.pieces '.' key with
  | [] => none
  | first :: rest => if first = "authData" then some rest else (authDataProvider? first).map (· :: rest)

/-- An object's entries as they are set: one that asks for a removal is left without a value. -/
def entriesOf (fields : Document) : List (String × Option Json) := fields.map fun (name, v) => (name, unlessDelete v)

theorem names_entriesOf (fields : Document) : Fields.names (entriesOf fields) = Fields.names fields := by
  rw [Fields.names, entriesOf, List.map_map]
  rfl

/-- Nothing is set at a place in a provider's entry. -/
def Unset (provider : String) (path : List Step) (providers : List (String × Option Json)) : Prop :=
  ∀ v, (provider, v) ∈ providers → v.bind (at? path) = none

theorem unset_entriesOf {provider : String} {path : List Step} {fields : Document}
    (h : ∀ v, (provider, v) ∈ fields → (unlessDelete v).bind (at? path) = none) :
    Unset provider path (entriesOf fields) := by
  intro v hv
  obtain ⟨⟨_, w⟩, hw, heq⟩ := List.mem_map.mp hv
  cases heq
  exact h w hw

/-- The entries of providers come in front of what the object of auth data holds for others. -/
theorem get?_authData_foldAuthDataFirst {object : Document} (h : providersOf object ≠ []) :
    Fields.get? "authData" (foldAuthDataFirst object) =
      some (.object (providersOf object ++ (fieldsOf ((Fields.get? "authData" object).getD .null)).filter
        fun e => !Fields.contains e.1 (providersOf object))) := by
  have hrest := Fields.get?_filter (fun key => (authDataProvider? key).isNone) object "authData"
  have hauth : authDataProvider? "authData" = none := by decide
  rw [if_pos (by simp [hauth])] at hrest
  rw [foldAuthDataFirst]
  dsimp only
  rw [if_neg (by simpa using h), Fields.get?_cons_self, hrest]

section

variable {object : Document} (hnodup : (Fields.names object).Nodup)
include hnodup

theorem mem_providersOf {provider : String} {v : Json} :
    (provider, v) ∈ providersOf object ↔ ∃ key, authDataProvider? key = some provider ∧ (key, v) ∈ object := by
  rw [providersOf_eq hnodup, List.mem_filterMap]
  constructor
  · rintro ⟨⟨key, w⟩, hmem, h⟩
    obtain ⟨provider', hprovider, heq⟩ := Option.map_eq_some_iff.mp h
    cases heq
    exact ⟨key, hprovider, hmem⟩
  · rintro ⟨key, hprovider, hmem⟩
    exact ⟨(key, v), hmem, by simp [hprovider]⟩

/-- A provider's own entry is folded as it is, whatever the object of auth data holds. -/
theorem exists_folded_provider {key provider : String} {v : Json} (hprovider : authDataProvider? key = some provider)
    (hmem : (key, v) ∈ object) :
    ∃ fields, Fields.get? "authData" (foldAuthDataFirst object) = some (.object fields) ∧
      provider ∈ Fields.names fields ∧ ∀ w, (provider, w) ∈ fields → w = v := by
  have hentry : (provider, v) ∈ providersOf object := (mem_providersOf hnodup).mpr ⟨key, hprovider, hmem⟩
  have hcontains : Fields.contains provider (providersOf object) = true :=
    Fields.contains_iff.mpr (List.mem_map_of_mem hentry)
  refine ⟨_, get?_authData_foldAuthDataFirst (List.ne_nil_of_mem hentry),
    List.mem_map_of_mem (List.mem_append_left _ hentry), fun w hw => ?_⟩
  rcases List.mem_append.mp hw with hw | hw
  · obtain ⟨key', hprovider', hmem'⟩ := (mem_providersOf hnodup).mp hw
    rw [eq_of_authDataProvider? hprovider', ← eq_of_authDataProvider? hprovider] at hmem'
    rw [← Option.some_inj, ← (Fields.get?_eq_some_iff hnodup key v).mpr hmem,
      (Fields.get?_eq_some_iff hnodup key w).mpr hmem']
  · simp [hcontains] at hw

/-- What the object of auth data holds for a provider without an entry of its own stays there. -/
theorem exists_folded_rest {fields : Document} (hget : Fields.get? "authData" object = some (.object fields))
    {provider : String} (hprovider : "_auth_data_" ++ provider ∉ Fields.names object) :
    ∃ fields', Fields.get? "authData" (foldAuthDataFirst object) = some (.object fields') ∧
      ∀ w, (provider, w) ∈ fields' ↔ (provider, w) ∈ fields := by
  have hnone : ∀ w, (provider, w) ∉ providersOf object := by
    intro w hw
    obtain ⟨key, hkey, hmem⟩ := (mem_providersOf hnodup).mp hw
    exact hprovider (eq_of_authDataProvider? hkey ▸ List.mem_map_of_mem hmem)
  have hcontains : Fields.contains provider (providersOf object) = false := by
    rw [← Bool.not_eq_true, Fields.contains_iff]
    intro hname
    obtain ⟨e, he, rfl⟩ := List.mem_map.mp hname
    exact hnone e.2 he
  by_cases hnil : providersOf object = []
  · have hself : foldAuthDataFirst object = object := by
      rw [foldAuthDataFirst, hnil]
      rfl
    exact ⟨fields, by rw [hself, hget], fun w => Iff.rfl⟩
  · refine ⟨_, get?_authData_foldAuthDataFirst hnil, fun w => ?_⟩
    rw [List.mem_append, hget]
    simp [hnone, hcontains, fieldsOf]

end

/-! ## Removals -/

/-- An update writes the object of auth data, with an entry of a provider that sets nothing at a place. -/
def Removes (changes : Document) (provider : String) (path : List Step) : Prop :=
  ∃ fields, Fields.get? "authData" (foldAuthDataFirst (expandDots changes)) = some (.object fields) ∧
    provider ∈ Fields.names fields ∧ Unset provider path (entriesOf fields)

theorem unlessDelete_bind_at? {path : List Step} {w : Json} (h : at? path w = none) :
    (unlessDelete w).bind (at? path) = none := by
  unfold unlessDelete
  split
  · rfl
  · exact h

section

variable {changes : Document} {key provider : String} {v : Json} (hnodup : (Fields.names changes).Nodup)
  (hmem : (key, v) ∈ changes) (halone : Alone key changes) (hdelete : v.operation? = some "Delete")
include hnodup hmem halone hdelete

/-- The entry of a provider is folded as the removal itself. -/
theorem removes_entry (hpoint : hasPoint key = false) (hprovider : authDataProvider? key = some provider) :
    Removes changes provider [] := by
  obtain ⟨fields, hget, hname, honly⟩ := exists_folded_provider (nodup_expandDots hnodup) hprovider
    (Fields.mem_of_get?_eq_some (halone.get?_expandDots hnodup hpoint hmem))
  refine ⟨fields, hget, hname, unset_entriesOf fun w hw => ?_⟩
  rw [honly w hw, unlessDelete, if_pos hdelete]
  rfl

/-- What is written inside the entry of a provider holds nothing at the removed place. -/
theorem removes_inside_entry {first sub : String} (hcut : cutKey? key = some (first, sub))
    (hprovider : authDataProvider? first = some provider) : Removes changes provider (steps sub) := by
  have hroot : hasPoint first = false := (cutKey?_eq_some_iff.mp hcut).2
  have hplaced := (halone.entriesIn hcut).placed (nodup_entriesIn hroot hnodup)
    (mem_entriesIn.mpr ⟨key, hcut, hmem⟩)
  rw [unlessDelete, if_pos hdelete] at hplaced
  obtain ⟨fields, hget, hname, honly⟩ := exists_folded_provider (nodup_expandDots hnodup) hprovider
    (Fields.mem_of_get?_eq_some (halone.get?_expandDots_inside hcut hmem))
  refine ⟨fields, hget, hname, unset_entriesOf fun w hw => ?_⟩
  rw [honly w hw]
  exact unlessDelete_bind_at? hplaced

/-- Nor does what is written through the object of auth data, past the provider. -/
theorem removes_past_provider {sub rest : String} (hcut : cutKey? key = some ("authData", sub))
    (hcut' : cutKey? sub = some (provider, rest)) (hown : "_auth_data_" ++ provider ∉ topKeys changes) :
    Removes changes provider (steps rest) := by
  have hinside : (sub, v) ∈ entriesIn "authData" changes := mem_entriesIn.mpr ⟨key, hcut, hmem⟩
  have hsub : Alone sub (entriesIn "authData" changes) := halone.entriesIn hcut
  have hplaced := hsub.placed (nodup_entriesIn (by decide) hnodup) hinside
  rw [unlessDelete, if_pos hdelete] at hplaced
  rw [← names_expandDots hnodup] at hown
  obtain ⟨fields, hget, hsame⟩ :=
    exists_folded_rest (nodup_expandDots hnodup) (halone.get?_expandDots_inside hcut hmem) hown
  have hentry := Fields.mem_of_get?_eq_some (hsub.get?_foldl_nest_inside hcut' hinside)
  refine ⟨fields, hget, List.mem_map_of_mem ((hsame _).mpr hentry), unset_entriesOf fun w hw => ?_⟩
  have hw' := (Fields.get?_eq_some_iff (nodup_foldl_nest nodup_nil _) _ _).mpr ((hsame w).mp hw)
  rw [steps_of_cutKey? hcut', at?_key, hw'] at hplaced
  exact unlessDelete_bind_at? hplaced

/-- Where a key leads into auth data and asks for a removal, nothing is set at its place. -/
theorem removes_of_authPlace? {rest : List String} (hplace : authPlace? key = some (provider :: rest))
    (hauth : firstPiece key = "authData" → rest ≠ [] ∧ "_auth_data_" ++ provider ∉ topKeys changes) :
    Removes changes provider (rest.map .key) := by
  cases hpoint : hasPoint key with
  | false =>
      have hkey : key ≠ "authData" := by
        rintro rfl
        cases hplace
      rw [authPlace?, pieces_of_undotted hpoint] at hplace
      dsimp only at hplace
      rw [if_neg hkey] at hplace
      obtain ⟨_, hprovider, heq⟩ := Option.map_eq_some_iff.mp hplace
      cases heq
      exact removes_entry hnodup hmem halone hdelete hpoint hprovider
  | true =>
      obtain ⟨first, sub, hcut⟩ := exists_cutKey? hpoint
      rw [authPlace?, pieces_of_cutKey? hcut] at hplace
      dsimp only at hplace
      split at hplace
      next hfirst =>
        subst hfirst
        obtain ⟨hrest, hown⟩ := hauth (firstPiece_of_cutKey? hcut)
        obtain ⟨sub', hcut', rfl⟩ := cutKey?_of_pieces (Option.some.inj hplace) hrest
        exact removes_past_provider hnodup hmem halone hdelete hcut hcut' hown
      next hfirst =>
        obtain ⟨_, hprovider, heq⟩ := Option.map_eq_some_iff.mp hplace
        obtain ⟨rfl, rfl⟩ := List.cons.inj heq
        exact removes_inside_entry hnodup hmem halone hdelete hcut hprovider

end

end Write

end Docstore
