import Docstore.Proofs.Query.Membership
import Docstore.Proofs.Query.Unconstrained
import Docstore.Proofs.Write.Agreement
import Docstore.Proofs.Write.Folding

/-!
# What counts as auth data

Queries drop the keys of auth data, writes fold them into one object. Writes take no name for a provider's but those of
letters, digits and underscores; queries take any. Main statement: `providers_agree_iff`.
-/

namespace Docstore

namespace Query

open Docstore.Sql (Bindings Fragment joinFragments render)

/-! ## Keys that drop out of queries -/

/-- Wherever the key stands in a query, and with whatever value, the query is compiled as if it were not there. -/
def DropsOut (key : String) : Prop :=
  ∀ (c : Context) (q r : Document) (v : Json) (b : Bindings),
    predicate c (q ++ (key, v) :: r) b = predicate c (q ++ r) b

/-- What an entry becomes on its own stands between what the others of its query become, and is not empty. -/
def StandsIn (c : Context) (e : String × Json) (p : Predicate) : Prop :=
  ∃ (before clauses after : List Fragment) (b b' : Bindings) (own : Predicate), predicate c [e] b = (.ok own, b') ∧
    own.sql = joinFragments " AND " clauses ∧ render own.sql ≠ "" ∧
    p.sql = joinFragments " AND " (before ++ clauses ++ after)

theorem isAuthData_of_dropsOut {key : String} (hdrops : DropsOut key) : IsAuthData key := by
  have hempty : ∃ p b', predicate bareContext [(key, .null)] ⟨1, []⟩ = (.ok p, b') ∧ render p.sql = "" :=
    ⟨_, _, hdrops bareContext [] [] .null ⟨1, []⟩, rfl⟩
  obtain ⟨hexempt, -⟩ := exists_predicate_empty_iff.mp hempty
  obtain hauth | ⟨-, hexists⟩ := hexempt (key, .null) (.head _)
  · exact hauth
  · cases hexists

section

variable {key : String} (hkey : ¬ IsUnsafe key)
include hkey

theorem validateEntry_of_safe (v : Json) : validateEntry key v = .ok () := by
  have hvalid := (isValidKey_iff key).mpr hkey
  have hlogical := isLogical_of_isValidKey hvalid
  have hcheck := (validateKey_ok_iff key).mpr hvalid
  cases v <;> simp [validateEntry, hlogical, hcheck]

theorem validateQuery_insert (q r : Document) (v : Json) :
    validateQuery (q ++ (key, v) :: r) = validateQuery (q ++ r) := by
  induction q with
  | nil => rw [List.nil_append, validateQuery, validateEntry_of_safe hkey, List.nil_append]
  | cons e q ih => rw [List.cons_append, validateQuery, ih, List.cons_append, validateQuery]

theorem dropsOut_of_isAuthData (hauth : IsAuthData key) : DropsOut key := by
  intro c q r v b
  have hskip : isSkipped c.schema key v = true := by
    rw [isSkipped, (isAuthDataKey_iff key).mpr hauth, Bool.true_or]
  have hcompile : compile c (q ++ (key, v) :: r) = compile c (q ++ r) := by
    rw [compile_append, compile_append, compile, if_pos hskip]
  rw [predicate, predicate, compileQuery, compileQuery, validateQuery_insert hkey, hcompile]

theorem dropsOut_iff : DropsOut key ↔ IsAuthData key := ⟨isAuthData_of_dropsOut, dropsOut_of_isAuthData hkey⟩

/-- Constraints that are not exempt show in every predicate that they are accepted in. -/
theorem standsIn_of_not_isExempt {c : Context} {v : Json} (hexempt : ¬ IsExempt c.schema key v) {q r : Document}
    {b b' : Bindings} {p : Predicate} (h : predicate c (q ++ (key, v) :: r) b = (.ok p, b')) :
    StandsIn c (key, v) p := by
  have hvalid := (isValidKey_iff key).mpr hkey
  have hskip : isSkipped c.schema key v = false := by
    rw [← Bool.not_eq_true, isSkipped_iff]
    exact hexempt
  obtain ⟨cs, -, hcs, rfl, -⟩ := predicate_ok h
  have hsplit : q ++ (key, v) :: r = q ++ ([(key, v)] ++ r) := rfl
  rw [hsplit, compile_append, compile_append] at hcs
  obtain ⟨before, others, -, hothers, rfl⟩ := Clauses.append_ok hcs
  obtain ⟨own, after, hown, -, rfl⟩ := Clauses.append_ok hothers
  have hne : own ≠ [] := by
    rw [compile, hskip, compileEntry_of_not_logical c (isLogical_of_isValidKey hvalid)] at hown
    exact required_ne_nil ((Clauses.append_none _).symm.trans hown)
  have hvalidate : validateQuery [(key, v)] = .ok () := by
    rw [validateQuery, validateEntry_of_safe hkey]
    rfl
  let b₁ := b.append (Condition.values before)
  let b₂ := b₁.append (Condition.values own)
  refine ⟨Condition.clauses b before, Condition.clauses b₁ own, Condition.clauses b₂ after, b₁, b₂, _,
    predicate_of_ok hvalidate hown b₁, Condition.number_conjunction b₁ own,
    (Condition.conjunction_hasWords hne).render_ne _, ?_⟩
  rw [Predicate.number, Condition.number_conjunction, Condition.clauses_append, Condition.clauses_append,
    List.append_assoc]

end

end Query

namespace Write

open Query (DropsOut IsAuthData IsUnsafe StandsIn)

/-! ## Keys that writes fold -/

/-- A folding of auth data leaves no entry under the key, and has what it held under a provider's name. -/
def Gathers (fold : Document → Document) (key : String) : Prop :=
  ∀ (object : Document) (v : Json), (Fields.names object).Nodup → (key, v) ∈ object →
    key ∉ Fields.names (fold object) ∧
      ∃ provider fields, Fields.get? "authData" (fold object) = some (.object fields) ∧
        Fields.get? provider fields = some v

section

variable {key : String}

theorem gathers_of_perm {fold gathered : Document → Document}
    (hperm : ∀ object, (Fields.names object).Nodup → providersOf object ≠ [] →
      (fold object).Perm (withAuthData object (gathered object)))
    (hget : ∀ object name, Fields.get? name (gathered object) =
      (Fields.get? name (providersOf object)).or (Fields.get? name (storedProviders object)))
    (hkey : (authDataProvider? key).isSome = true) : Gathers fold key := by
  intro object v hnodup hmem
  obtain ⟨provider, hprovider⟩ := Option.isSome_iff_exists.mp hkey
  obtain ⟨rfl, hname⟩ := authDataProvider?_eq_some_iff.mp hprovider
  have hstored := (get?_providersOf hnodup).mpr ⟨hname, hmem⟩
  have hsome : providersOf object ≠ [] := by
    intro hnil
    rw [hnil] at hstored
    cases hstored
  have hfolded := Fields.get?_of_perm (hperm object hnodup hsome) (nodup_withAuthData hnodup)
  refine ⟨?_, provider, gathered object, ?_, ?_⟩
  · rw [← Fields.get?_eq_none_iff, hfolded, get?_withAuthData_of_ne (ne_authData hkey), hprovider]
    rfl
  · rw [hfolded, withAuthData, Fields.get?_cons_self]
  · rw [hget, hstored, Option.some_or]

theorem isSome_of_gathers {fold : Document → Document}
    (hself : authDataProvider? key = none → fold [(key, .null)] = [(key, .null)]) (h : Gathers fold key) :
    (authDataProvider? key).isSome = true := by
  rw [Option.isSome_iff_ne_none]
  intro hnone
  obtain ⟨hnot, -⟩ := h [(key, .null)] .null (List.nodup_singleton key) (.head _)
  rw [hself hnone] at hnot
  exact hnot (.head _)

theorem gathers_foldAuthData_iff : Gathers foldAuthData key ↔ (authDataProvider? key).isSome = true := by
  constructor
  · exact isSome_of_gathers fun hnone => foldAuthData_eq_self (by simpa using hnone)
  · exact gathers_of_perm (fun _ => foldAuthData_perm) fun object =>
      Fields.get?_insertAll (nodup_providersOf object)

theorem gathers_foldAuthDataFirst_iff : Gathers foldAuthDataFirst key ↔ (authDataProvider? key).isSome = true := by
  constructor
  · exact isSome_of_gathers foldAuthDataFirst_eq_self
  · exact gathers_of_perm (fun _ => foldAuthDataFirst_perm) get?_gatheredFirst

theorem isAuthData_of_isSome (h : (authDataProvider? key).isSome = true) : IsAuthData key := by
  obtain ⟨provider, hprovider⟩ := Option.isSome_iff_exists.mp h
  obtain ⟨rfl, hname⟩ := authDataProvider?_eq_some_iff.mp hprovider
  exact ⟨provider, hname.1, rfl⟩

theorem isSome_iff_of_name {name : String} :
    (authDataProvider? ("_auth_data_" ++ name)).isSome = true ↔ IsProviderName name := by
  constructor
  · intro h
    obtain ⟨provider, hprovider⟩ := Option.isSome_iff_exists.mp h
    obtain ⟨heq, hname⟩ := authDataProvider?_eq_some_iff.mp hprovider
    rwa [(String.append_right_inj _).mp heq]
  · intro hname
    rw [authDataProvider?_eq_some_iff.mpr ⟨rfl, hname⟩]
    rfl

/-- Queries and writes take a key for auth data alike exactly if what follows the mark is none or a provider's name. -/
theorem recognised_alike_iff : (IsAuthData key ↔ (authDataProvider? key).isSome = true) ↔
    ∀ name, key = "_auth_data_" ++ name → name ≠ "" → IsProviderName name := by
  constructor
  · rintro h name rfl hname
    exact isSome_iff_of_name.mp (h.mp ⟨name, hname, rfl⟩)
  · intro h
    refine ⟨?_, isAuthData_of_isSome⟩
    rintro ⟨name, hname, rfl⟩
    exact isSome_iff_of_name.mpr (h name rfl hname)

end

/-- The keys that drop out of queries are those that writes fold, but for a name behind `_auth_data_` that is none of a
provider. A constraint on any other key stands in the predicate or is refused, but for the wish that an undeclared
field is absent. -/
theorem providers_agree_iff {key : String} (hkey : ¬ IsUnsafe key) :
    (Gathers foldAuthData key ↔ (authDataProvider? key).isSome = true) ∧
      (Gathers foldAuthDataFirst key ↔ (authDataProvider? key).isSome = true) ∧
      (DropsOut key ↔ IsAuthData key) ∧
      ((DropsOut key ↔ (authDataProvider? key).isSome = true) ↔
        ∀ name, key = "_auth_data_" ++ name → name ≠ "" → IsProviderName name) ∧
      (¬ DropsOut key → ∀ (c : Query.Context) (v : Json),
        ¬ (c.schema.fieldType? key = none ∧ v.get? "$exists" = some (.bool false)) →
        ∀ (q r : Document) (b b' : Sql.Bindings) (p : Query.Predicate),
          Query.predicate c (q ++ (key, v) :: r) b = (.ok p, b') → StandsIn c (key, v) p) := by
  have hdrops := Query.dropsOut_iff hkey
  refine ⟨gathers_foldAuthData_iff, gathers_foldAuthDataFirst_iff, hdrops, ?_, ?_⟩
  · rw [hdrops]
    exact recognised_alike_iff
  · intro hnot c v habsent q r b b' p hp
    refine Query.standsIn_of_not_isExempt hkey (fun hexempt => ?_) hp
    exact hexempt.elim (fun hauth => hnot (hdrops.mpr hauth)) habsent

/-- Users with a field whose name continues that of auth data, but is none of a provider. -/
def usersContext : Query.Context :=
  ⟨⟨"_User", [("username", .ofType .string), ("_auth_data_my-mail", .ofType .string)], none, []⟩, false, ⟨0, 0⟩⟩

theorem providers_agree_iff_mail :
    ¬ IsUnsafe "_auth_data_mail" ∧ DropsOut "_auth_data_mail" ∧ Gathers foldAuthData "_auth_data_mail" ∧
      ∃ p b',
        Query.predicate usersContext [("_auth_data_mail", .null), ("username", .string "a")] ⟨1, []⟩ = (.ok p, b') ∧
        StandsIn usersContext ("username", .string "a") p := by
  have hmail : ¬ IsUnsafe "_auth_data_mail" := (Query.isValidKey_iff _).mp (by decide)
  have huser : ¬ IsUnsafe "username" := (Query.isValidKey_iff _).mp (by decide)
  have hprovider : (authDataProvider? "_auth_data_mail").isSome = true := by decide
  obtain ⟨hgathers, -, hdrops, -, -⟩ := providers_agree_iff hmail
  obtain ⟨-, -, hdrops', -, hstands⟩ := providers_agree_iff huser
  refine ⟨hmail, hdrops.mpr (isAuthData_of_isSome hprovider), hgathers.mpr hprovider, _, _, rfl, ?_⟩
  have hauth : ¬ IsAuthData "username" := (Query.isAuthDataKey_eq_false_iff _).mp (by decide)
  exact hstands (fun h => hauth (hdrops'.mp h)) usersContext (.string "a") (by simp [Json.get?])
    [("_auth_data_mail", .null)] [] ⟨1, []⟩ _ _ rfl

/-- Constraints on a declared field and on a place inside a provider's auth data are dropped, neither of which has the
key of a provider. -/
theorem dropped_keys_not_folded :
    (Query.isValidKey "_auth_data_my-mail" = true ∧ authDataProvider? "_auth_data_my-mail" = none ∧
      foldAuthData [("_auth_data_my-mail", .string "a")] = [("_auth_data_my-mail", .string "a")] ∧
      ∃ p, Query.predicate usersContext [("_auth_data_my-mail", .string "a")] ⟨1, []⟩ = (.ok p, ⟨1, []⟩) ∧
        Sql.render p.sql = "") ∧
    Query.isValidKey "_auth_data_mail.id" = true ∧ authDataProvider? "_auth_data_mail.id" = none ∧
      foldAuthData [("_auth_data_mail.id", .string "a")] = [("_auth_data_mail.id", .string "a")] ∧
      ∃ p, Query.predicate usersContext [("_auth_data_mail.id", .string "a")] ⟨1, []⟩ = (.ok p, ⟨1, []⟩) ∧
        Sql.render p.sql = "" :=
  ⟨⟨by decide, by decide, rfl, _, rfl, rfl⟩, by decide, by decide, rfl, _, rfl, rfl⟩

end Write

end Docstore
