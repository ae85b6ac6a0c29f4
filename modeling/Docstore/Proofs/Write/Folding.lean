import Docstore.Proofs.Write.AuthData
import Docstore.Proofs.Write.Cells

/-!
# Two ways to fold auth data

Inserts fold the entries of auth data one after the other, updates all at once and in front. Both make the same document,
but for the order of its keys and of those in the object of auth data (`foldings_agree`).
-/

namespace Docstore

namespace Write

/-! ## Keys of providers -/

/-- What providers are called: letters and digits of ASCII and underscores. -/
def IsProviderName (name : String) : Prop := name ≠ "" ∧ ∀ c ∈ name.toList, c.isAlpha ∨ c.isDigit ∨ c = '_'

theorem authDataProvider?_eq_some_iff {key provider : String} :
    authDataProvider? key = some provider ↔ key = "_auth_data_" ++ provider ∧ IsProviderName provider := by
  have hname (s : String) : (s ≠ "" && s.toList.all isProviderChar) = true ↔ IsProviderName s := by
    simp [IsProviderName, isProviderChar, Char.isAlphanum, or_assoc]
  unfold authDataProvider?
  split
  next s hafter =>
    rw [Text.after?_eq_some_iff] at hafter
    subst hafter
    split
    next hs =>
      simp only [Option.some.injEq, String.append_right_inj]
      exact ⟨fun h => ⟨h, h ▸ (hname s).mp hs⟩, And.left⟩
    next hs =>
      simp only [String.append_right_inj, reduceCtorEq, false_iff, not_and]
      rintro rfl h
      exact hs ((hname s).mpr h)
  next hafter =>
    simp only [reduceCtorEq, false_iff, not_and]
    rintro rfl -
    exact Option.some_ne_none _ ((Text.after?_eq_some_iff.mpr rfl).symm.trans hafter)

theorem authDataProvider?_eq_none_iff {name : String} :
    authDataProvider? name = none ↔ ∀ provider, IsProviderName provider → name ≠ "_auth_data_" ++ provider := by
  rw [Option.eq_none_iff_forall_ne_some]
  simp only [ne_eq, authDataProvider?_eq_some_iff, not_and, imp_not_comm]

theorem ne_authData {key : String} (h : (authDataProvider? key).isSome) : key ≠ "authData" := by
  rintro rfl
  cases h

/-! ## The object of auth data -/

/-- What the object of auth data holds before anything is folded into it. -/
def storedProviders (object : Document) : Document := fieldsOf ((Fields.get? "authData" object).getD .null)

theorem get?_storedProviders (object : Document) (name : String) :
    Fields.get? name (storedProviders object) = (Fields.get? "authData" object).bind (Json.get? name) := by
  rw [storedProviders]
  cases Fields.get? "authData" object with
  | none => rfl
  | some v => cases v <;> rfl

theorem nodup_storedProviders {object : Document}
    (h : ∀ fields, ("authData", .object fields) ∈ object → (Fields.names fields).Nodup) :
    (Fields.names (storedProviders object)).Nodup := by
  rw [storedProviders]
  cases hauth : Fields.get? "authData" object with
  | none => exact nodup_nil
  | some v =>
      cases v with
      | object fields => exact h fields (Fields.mem_of_get?_eq_some hauth)
      | _ => exact nodup_nil

theorem nodup_providersOf (object : Document) : (Fields.names (providersOf object)).Nodup :=
  Fields.nodup_insertAll nodup_nil

/-- The providers' entries in front of what the object of auth data held for others. -/
def gatheredFirst (object : Document) : Document :=
  providersOf object ++ (storedProviders object).filter fun e => !Fields.contains e.1 (providersOf object)

theorem get?_gatheredFirst (object : Document) (name : String) :
    Fields.get? name (gatheredFirst object) =
      (Fields.get? name (providersOf object)).or (Fields.get? name (storedProviders object)) := by
  have hkept := Fields.get?_filter (fun name => !Fields.contains name (providersOf object)) (storedProviders object) name
  rw [gatheredFirst, Fields.get?_append, hkept, Fields.contains]
  cases Fields.get? name (providersOf object) <;> rfl

theorem nodup_gatheredFirst {object : Document} (h : (Fields.names (storedProviders object)).Nodup) :
    (Fields.names (gatheredFirst object)).Nodup := by
  rw [gatheredFirst, Fields.names, List.map_append]
  refine List.nodup_append.mpr ⟨nodup_providersOf object, Fields.nodup_filter _ h, ?_⟩
  rintro name hname _ hkept rfl
  obtain ⟨e, he, rfl⟩ := List.mem_map.mp hkept
  have hnot : Fields.contains e.1 (providersOf object) = false := by simpa using (List.mem_filter.mp he).2
  exact Bool.false_ne_true (hnot.symm.trans (Fields.contains_iff.mpr hname))

/-! ## Folding one after the other -/

section

variable {out entries : Document}

theorem foldEntry_of_provider {key provider : String} {v : Json} (hprovider : authDataProvider? key = some provider)
    (hv : Fields.get? key out = some v) (w : Json) :
    foldEntry out (key, w) =
      Fields.insert "authData" (.object (Fields.insert provider v (storedProviders out))) (Fields.erase key out) := by
  have hauth : "authData" ≠ key := (ne_authData (by simp [hprovider])).symm
  have hstored :
      fieldsOf ((Fields.get? "authData" (Fields.erase key out)).getD (.object [])) = storedProviders out := by
    rw [Fields.get?_erase_of_ne hauth, storedProviders]
    cases Fields.get? "authData" out <;> rfl
  unfold foldEntry foldProvider
  simp only [hprovider, hv, hstored]

/-- Entries that are not folded, or not yet, keep their values. -/
theorem get?_foldEntry_of_ne {e : String × Json} {name : String} (hname : name ≠ "authData")
    (h : (authDataProvider? e.1).isSome → name ≠ e.1) :
    Fields.get? name (foldEntry out e) = Fields.get? name out := by
  unfold foldEntry foldProvider
  split
  next hprovider =>
    split
    · rfl
    · rw [Fields.get?_insert_of_ne hname, Fields.get?_erase_of_ne (h (by simp [hprovider]))]
  next => rfl

theorem get?_foldAuthData {object : Document} {name : String} (hname : name ≠ "authData")
    (h : authDataProvider? name = none) : Fields.get? name (foldAuthData object) = Fields.get? name object := by
  have hne (e : String × Json) (hsome : (authDataProvider? e.1).isSome) : name ≠ e.1 := by
    rintro rfl
    rw [h] at hsome
    cases hsome
  exact List.foldlRecOn (motive := fun out => Fields.get? name out = Fields.get? name object) object foldEntry rfl
    fun out hout e _ => (get?_foldEntry_of_ne hname (hne e)).trans hout

/-- Entries of providers that stand in the document are set in the object of auth data, in their order. -/
theorem get?_authData_foldl_foldEntry (hentries : (Fields.names entries).Nodup)
    (h : ∀ e ∈ entries, (authDataProvider? e.1).isSome → Fields.get? e.1 out = some e.2) :
    Fields.get? "authData" (entries.foldl foldEntry out) =
      if providersOf entries = [] then Fields.get? "authData" out
      else some (.object (Fields.insertAll (storedProviders out) (providersOf entries))) := by
  induction entries generalizing out with
  | nil => rfl
  | cons e entries ih =>
      obtain ⟨key, v⟩ := e
      obtain ⟨hkey, hrest⟩ := List.nodup_cons.mp hentries
      obtain ⟨hhead, htail⟩ := List.forall_mem_cons.mp h
      have htail' : ∀ e ∈ entries, (authDataProvider? e.1).isSome →
          Fields.get? e.1 (foldEntry out (key, v)) = some e.2 := by
        intro e he hsome
        have hne : e.1 ≠ key := fun heq => hkey (List.mem_map.mpr ⟨e, he, heq⟩)
        rw [get?_foldEntry_of_ne (ne_authData hsome) fun _ => hne, htail e he hsome]
      rw [List.foldl_cons, ih hrest htail', providersOf_eq hrest, providersOf_eq hentries]
      cases hprovider : authDataProvider? key with
      | none =>
          have hsame : foldEntry out (key, v) = out := by rw [foldEntry, hprovider]
          rw [List.filterMap_cons_none (by simp [hprovider]), hsame]
      | some provider =>
          have hauth : Fields.get? "authData" (foldEntry out (key, v)) =
              some (.object (Fields.insert provider v (storedProviders out))) := by
            rw [foldEntry_of_provider hprovider (hhead (by simp [hprovider])) v, Fields.get?_insert_self]
          rw [List.filterMap_cons_some (by simp [hprovider]; rfl), if_neg (List.cons_ne_nil _ _), storedProviders, hauth]
          split
          next hnil =>
            rw [hnil]
            rfl
          next => rfl

end

/-! ## Documents with auth data -/

/-- The entries that are not about auth data. -/
def plainEntries (object : Document) : Document :=
  object.filter fun e => e.1 ≠ "authData" && (authDataProvider? e.1).isNone

/-- A document with these auth data. -/
def withAuthData (object fields : Document) : Document := ("authData", .object fields) :: plainEntries object

theorem get?_withAuthData_of_ne {name : String} (hname : name ≠ "authData") (object fields : Document) :
    Fields.get? name (withAuthData object fields) =
      if (authDataProvider? name).isNone then Fields.get? name object else none := by
  have hplain := Fields.get?_filter (fun key => key ≠ "authData" && (authDataProvider? key).isNone) object name
  rw [withAuthData, Fields.get?_cons_of_ne (Ne.symm hname), plainEntries, hplain]
  simp [hname]

theorem not_mem_columnsOf {keys : List String} {column : String} (h : (authDataProvider? column).isSome) :
    column ∉ columnsOf keys := by
  rw [mem_columnsOf]
  rintro ⟨key, -, rfl⟩
  split at h
  next => cases h
  next hnone => exact hnone h

section

variable {object fields folded : Document} (hnodup : (Fields.names object).Nodup)
include hnodup

theorem nodup_withAuthData : (Fields.names (withAuthData object fields)).Nodup := by
  refine List.nodup_cons.mpr ⟨fun hmem => ?_, Fields.nodup_filter _ hnodup⟩
  obtain ⟨e, he, heq⟩ := List.mem_map.mp hmem
  simpa [heq] using (List.mem_filter.mp he).2

/-- A document that has these auth data, no key of a provider and otherwise what the given one has. -/
theorem perm_withAuthData (hfolded : (Fields.names folded).Nodup)
    (hnames : ∀ name, name ∈ Fields.names folded → name ∈ columnsOf (Fields.names object))
    (hplain : ∀ name, name ≠ "authData" → authDataProvider? name = none →
      Fields.get? name folded = Fields.get? name object)
    (hauth : Fields.get? "authData" folded = some (.object fields)) : folded.Perm (withAuthData object fields) := by
  refine Fields.perm_of_get? hfolded (nodup_withAuthData hnodup) fun name => ?_
  by_cases hname : name = "authData"
  · rw [hname, hauth, withAuthData, Fields.get?_cons_self]
  · rw [get?_withAuthData_of_ne hname]
    cases hprovider : authDataProvider? name with
    | none => exact hplain name hname hprovider
    | some provider =>
        have hnot : name ∉ columnsOf (Fields.names object) := not_mem_columnsOf (by simp [hprovider])
        exact Fields.get?_eq_none_iff.mpr fun hmem => hnot (hnames name hmem)

theorem foldAuthData_perm (h : providersOf object ≠ []) :
    (foldAuthData object).Perm
      (withAuthData object (Fields.insertAll (storedProviders object) (providersOf object))) := by
  refine perm_withAuthData hnodup (nodup_foldAuthData hnodup) (fun name => (mem_names_foldAuthData hnodup).mp)
    (fun name hname hprovider => get?_foldAuthData hname hprovider) ?_
  rw [foldAuthData_eq, get?_authData_foldl_foldEntry hnodup fun e he _ => (Fields.get?_eq_some_iff hnodup _ _).mpr he,
    if_neg h]

theorem foldAuthDataFirst_perm (h : providersOf object ≠ []) :
    (foldAuthDataFirst object).Perm (withAuthData object (gatheredFirst object)) := by
  refine perm_withAuthData hnodup (nodup_foldAuthDataFirst hnodup) (fun name hname => ?_)
    (fun name hname hprovider => get?_foldAuthDataFirst hname hprovider object) (get?_authData_foldAuthDataFirst h)
  rwa [names_foldAuthDataFirst hnodup] at hname

/-! ## Both foldings -/

theorem get?_providersOf {provider : String} {v : Json} :
    Fields.get? provider (providersOf object) = some v ↔
      IsProviderName provider ∧ ("_auth_data_" ++ provider, v) ∈ object := by
  rw [Fields.get?_eq_some_iff (nodup_providersOf object), mem_providersOf hnodup]
  constructor
  · rintro ⟨key, hkey, hmem⟩
    obtain ⟨rfl, hname⟩ := authDataProvider?_eq_some_iff.mp hkey
    exact ⟨hname, hmem⟩
  · rintro ⟨hname, hmem⟩
    exact ⟨_, authDataProvider?_eq_some_iff.mpr ⟨rfl, hname⟩, hmem⟩

theorem providersOf_eq_nil_iff :
    providersOf object = [] ↔ ∀ provider, IsProviderName provider → "_auth_data_" ++ provider ∉ Fields.names object := by
  constructor
  · intro hnil provider hname hmem
    obtain ⟨⟨key, v⟩, he, rfl⟩ := List.mem_map.mp hmem
    have hget := (get?_providersOf hnodup).mpr ⟨hname, he⟩
    rw [hnil] at hget
    cases hget
  · intro hnone
    refine List.eq_nil_iff_forall_not_mem.mpr fun e he => ?_
    obtain ⟨hname, hmem⟩ := (get?_providersOf hnodup).mp ((Fields.get?_eq_some_iff (nodup_providersOf object) _ _).mpr he)
    exact hnone e.1 hname (List.mem_map_of_mem hmem)

end

/-- Documents that are equal but for the order of their keys and of those in the object of auth data. -/
def SameButOrder (d e : Document) : Prop :=
  d.Perm e ∨ ∃ fields fields' rest : Document, fields.Perm fields' ∧ d.Perm (("authData", .object fields) :: rest) ∧
    e.Perm (("authData", .object fields') :: rest)

/-- A document whose entries of providers have been folded, and in which nothing else was changed. -/
structure Folds (object folded : Document) : Prop where
  noneLeft : ∀ provider, IsProviderName provider → "_auth_data_" ++ provider ∉ Fields.names folded
  gathered : (∃ provider, IsProviderName provider ∧ "_auth_data_" ++ provider ∈ Fields.names object) →
    ∃ fields, Fields.get? "authData" folded = some (.object fields) ∧
      (∀ provider v, IsProviderName provider → ("_auth_data_" ++ provider, v) ∈ object →
        Fields.get? provider fields = some v) ∧
      ∀ name, ¬ (IsProviderName name ∧ "_auth_data_" ++ name ∈ Fields.names object) →
        Fields.get? name fields = (Fields.get? "authData" object).bind (Json.get? name)
  others : ∀ name, name ≠ "authData" → (∀ provider, IsProviderName provider → name ≠ "_auth_data_" ++ provider) →
    Fields.get? name folded = Fields.get? name object
  untouched : (∀ provider, IsProviderName provider → "_auth_data_" ++ provider ∉ Fields.names object) → folded = object

section

variable {object fields folded : Document} (hnodup : (Fields.names object).Nodup)
include hnodup

theorem folds_self (h : providersOf object = []) : Folds object object := by
  have hnone := (providersOf_eq_nil_iff hnodup).mp h
  exact ⟨hnone, fun ⟨provider, hname, hmem⟩ => absurd hmem (hnone provider hname), fun _ _ _ => rfl, fun _ => rfl⟩

theorem folds_of_perm (hsome : providersOf object ≠ []) (hperm : folded.Perm (withAuthData object fields))
    (hfields : ∀ name, Fields.get? name fields =
      (Fields.get? name (providersOf object)).or (Fields.get? name (storedProviders object))) :
    Folds object folded := by
  have hget := Fields.get?_of_perm hperm (nodup_withAuthData hnodup)
  refine ⟨fun provider hname => ?_, fun _ => ⟨fields, ?_, fun provider v hname hmem => ?_, fun name hnone => ?_⟩,
    fun name hname hprovider => ?_, fun hnone => ?_⟩
  · have hkey := authDataProvider?_eq_some_iff.mpr ⟨rfl, hname⟩
    rw [← Fields.get?_eq_none_iff, hget, get?_withAuthData_of_ne (ne_authData (by simp [hkey])), hkey]
    rfl
  · rw [hget, withAuthData, Fields.get?_cons_self]
  · rw [hfields, (get?_providersOf hnodup).mpr ⟨hname, hmem⟩, Option.some_or]
  · have hnot : Fields.get? name (providersOf object) = none := by
      refine Option.eq_none_iff_forall_ne_some.mpr fun v hv => hnone ?_
      obtain ⟨hname, hmem⟩ := (get?_providersOf hnodup).mp hv
      exact ⟨hname, List.mem_map_of_mem hmem⟩
    rw [hfields, hnot, Option.none_or, get?_storedProviders]
  · rw [hget, get?_withAuthData_of_ne hname, authDataProvider?_eq_none_iff.mpr hprovider]
    rfl
  · exact absurd ((providersOf_eq_nil_iff hnodup).mpr hnone) hsome

/--
The two foldings make the same document, but for the order of keys: no key of a provider is left, the object of auth
data holds each provider's entry and what it held for others, and nothing else is changed.
-/
theorem foldings_agree
    (hstored : ∀ fields, ("authData", .object fields) ∈ object → (Fields.names fields).Nodup) :
    SameButOrder (foldAuthData object) (foldAuthDataFirst object) ∧
      Folds object (foldAuthData object) ∧ Folds object (foldAuthDataFirst object) := by
  by_cases hnil : providersOf object = []
  · have hnone : ∀ e ∈ object, authDataProvider? e.1 = none := by
      refine fun e he => authDataProvider?_eq_none_iff.mpr fun provider hname heq => ?_
      exact (providersOf_eq_nil_iff hnodup).mp hnil provider hname (List.mem_map.mpr ⟨e, he, heq⟩)
    have hfirst : foldAuthDataFirst object = object := by
      rw [foldAuthDataFirst, hnil]
      rfl
    rw [hfirst, foldAuthData_eq_self hnone]
    exact ⟨.inl (.refl _), folds_self hnodup hnil, folds_self hnodup hnil⟩
  · have hstored := nodup_storedProviders hstored
    have hget (name : String) : Fields.get? name (Fields.insertAll (storedProviders object) (providersOf object)) =
        (Fields.get? name (providersOf object)).or (Fields.get? name (storedProviders object)) :=
      Fields.get?_insertAll (nodup_providersOf object) name
    have hsame : (Fields.insertAll (storedProviders object) (providersOf object)).Perm (gatheredFirst object) :=
      Fields.perm_of_get? (Fields.nodup_insertAll hstored) (nodup_gatheredFirst hstored) fun name =>
        (hget name).trans (get?_gatheredFirst object name).symm
    have hperm := foldAuthData_perm hnodup hnil
    have hperm' := foldAuthDataFirst_perm hnodup hnil
    exact ⟨.inr ⟨_, _, _, hsame, hperm, hperm'⟩, folds_of_perm hnodup hnil hperm hget,
      folds_of_perm hnodup hnil hperm' (get?_gatheredFirst object)⟩

end

/-- A user with entries of two providers, one of which the object of auth data holds already. -/
def signedUp : Document :=
  [("_auth_data_mail", .string "new"), ("username", .string "ann"),
    ("authData", .object [("chat", .string "c"), ("mail", .string "old")]), ("_auth_data_a-b", .int 1),
    ("_auth_data_web_2", .null)]

theorem foldings_agree_signedUp : (Fields.names signedUp).Nodup ∧
    (∀ fields, ("authData", .object fields) ∈ signedUp → (Fields.names fields).Nodup) ∧
    SameButOrder (foldAuthData signedUp) (foldAuthDataFirst signedUp) ∧
    ∃ fields, Fields.get? "authData" (foldAuthData signedUp) = some (.object fields) ∧
      Fields.get? "mail" fields = some (.string "new") ∧ Fields.get? "chat" fields = some (.string "c") ∧
      Fields.get? "web_2" fields = some .null := by
  have hnodup : (Fields.names signedUp).Nodup := by decide
  have hstored : ∀ fields, ("authData", .object fields) ∈ signedUp → (Fields.names fields).Nodup := by
    intro fields hmem
    have hfields : fields = [("chat", .string "c"), ("mail", .string "old")] := by simpa [signedUp] using hmem
    rw [hfields]
    decide
  obtain ⟨hsame, hfolds, -⟩ := foldings_agree hnodup hstored
  have hmail : IsProviderName "mail" :=
    (authDataProvider?_eq_some_iff.mp (by decide : authDataProvider? "_auth_data_mail" = some "mail")).2
  have hweb : IsProviderName "web_2" :=
    (authDataProvider?_eq_some_iff.mp (by decide : authDataProvider? "_auth_data_web_2" = some "web_2")).2
  obtain ⟨fields, hget, hprovider, hother⟩ := hfolds.gathered ⟨"mail", hmail, by decide⟩
  exact ⟨hnodup, hstored, hsame, fields, hget, hprovider "mail" _ hmail (.head _), hother "chat" (fun h => absurd h.2 (by decide)),
    hprovider "web_2" _ hweb (by simp [signedUp])⟩

end Write

end Docstore
