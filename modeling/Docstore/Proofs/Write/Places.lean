import Docstore.Proofs.Write.Agreement
import Docstore.Proofs.Write.Expansion
import Docstore.Proofs.Write.Merging

/-!
# Places inside fields

What an update of places inside an object's field leaves of the stored object, read off the assignment's text. One
step inside the field each key is written for itself and the others stay (`nested_update_applies`). Further inside,
what is written takes the place of everything that its first key held (`deep_write_replaces_root`).
-/

namespace Docstore

namespace Write

open Docstore.Sql (Datum)

variable {schema : Schema} {f : String} {changes : Document} {u : Update}

/-! ## One step inside a field -/

/-- An update that writes to a field's keys and not to the field as a whole, nor further inside. -/
structure OneLevel (f : String) (changes : Document) : Prop where
  not_whole : f ∉ Fields.names changes
  written : ∃ key, f ++ "." ++ key ∈ Fields.names changes
  keys : ∀ key, f ++ "." ++ key ∈ Fields.names changes → hasPoint key = false ∧ key ≠ "__op" ∧ key ≠ "__type"
  operations : ∀ key v, Fields.get? (f ++ "." ++ key) changes = some v →
    v.operation? = none ∨ v.operation? = some "Increment" ∨ v.operation? = some "Delete"

/-- What is under a key of a stored object once its field has been written to. -/
def writtenAt? (changes : Document) (f : String) (stored : Document) (key : String) : Option Json :=
  match Fields.get? (f ++ "." ++ key) changes with
  | none => Fields.get? key stored
  | some v =>
    match v.operation? with
    | some "Delete" => none
    | some "Increment" => (sumAt? stored key (amountOf v)).map fun sum => .number (.float sum)
    | _ => some v

theorem actionOf_object {fields : Document} (htype : schema.fieldType? f = some .object) (hauth : f ≠ "authData")
    (hop : Json.operation? (.object fields) = none) (htag : Json.typeTag? (.object fields) = none)
    (changes : Document) :
    actionOf schema changes f (.object fields) = .ok (some (mergeAction changes f fields)) := by
  simp [actionOf, setAction, Json.isNull, hauth, hop, htag, htype]

/-- The entries themselves show whether an update keeps to one level. -/
theorem OneLevel.of_entriesIn (hf : hasPoint f = false) (hwhole : f ∉ Fields.names changes)
    (hsome : entriesIn f changes ≠ [])
    (h : ∀ e ∈ entriesIn f changes, (hasPoint e.1 = false ∧ e.1 ≠ "__op" ∧ e.1 ≠ "__type") ∧
      (e.2.operation? = none ∨ e.2.operation? = some "Increment" ∨ e.2.operation? = some "Delete")) :
    OneLevel f changes where
  not_whole := hwhole
  written := by
    obtain ⟨e, he⟩ := List.exists_mem_of_ne_nil _ hsome
    exact ⟨e.1, mem_names_of_entriesIn hf (List.mem_map_of_mem he)⟩
  keys := by
    intro key hkey
    have hmem : key ∈ Fields.names (entriesIn f changes) := by
      rw [← not_not (a := key ∈ _), ← Fields.get?_eq_none_iff, get?_entriesIn hf, Fields.get?_eq_none_iff, not_not]
      exact hkey
    obtain ⟨e, he, rfl⟩ := List.mem_map.mp hmem
    exact (h e he).1
  operations := by
    intro key v hv
    rw [← get?_entriesIn hf] at hv
    exact (h (key, v) (Fields.mem_of_get?_eq_some hv)).2

/-- The entries one step inside a field that ask for an operation. -/
def asking (operation f : String) (changes : Document) : Document :=
  (entriesIn f changes).filter (·.2.operation? = some operation)

/-- What the entries inside a field leave there, put into nothing. -/
def nested (f : String) (changes : Document) : Document :=
  (entriesIn f changes).filter (·.2.operation? ≠ some "Delete")

namespace OneLevel

variable (h : OneLevel f changes) (hf : hasPoint f = false)

include h hf

theorem undotted : ∀ e ∈ entriesIn f changes, hasPoint e.1 = false := fun _ he =>
  (h.keys _ (mem_names_of_entriesIn hf (List.mem_map_of_mem he))).1

theorem entriesIn_ne_nil : entriesIn f changes ≠ [] := by
  obtain ⟨key, hkey⟩ := h.written
  intro hnil
  have hnone : Fields.get? (f ++ "." ++ key) changes = none := by
    rw [← get?_entriesIn hf, hnil]
    rfl
  exact Fields.get?_eq_none_iff.mp hnone hkey

theorem get?_nested_eq_none {key : String} (hkey : key = "__op" ∨ key = "__type") :
    Fields.get? key (nested f changes) = none := by
  refine Fields.get?_eq_none_iff.mpr fun hmem => ?_
  obtain ⟨-, hop, htag⟩ := h.keys key (mem_names_of_entriesIn hf ((List.filter_sublist.map _).subset hmem))
  rcases hkey with rfl | rfl
  · exact hop rfl
  · exact htag rfl

end OneLevel

theorem get?_sumsOf (stored entries : Document) (key : String) :
    Fields.get? key (sumsOf stored (entries.map fun e => (e.1, amountOf e.2))) =
      (Fields.get? key entries).map fun v => .number (.float ((sumAt? stored key (amountOf v)).getD 0)) := by
  have hsums : sumsOf stored (entries.map fun e => (e.1, amountOf e.2)) =
      entries.map fun e => (e.1, .number (.float ((sumAt? stored e.1 (amountOf e.2)).getD 0))) := List.map_map
  rw [hsums]
  exact Fields.get?_map_entries (fun key v => Json.number (.float ((sumAt? stored key (amountOf v)).getD 0))) _ _

/-- An update of places inside a field keeps what is stored there. -/
theorem mergeAction_eq (h : entriesIn f changes ≠ []) (fields : Document) :
    mergeAction changes f fields =
      .merge true (Fields.names (nestedOperations changes f "Delete"))
        ((nestedOperations changes f "Increment").map fun e => (e.1, amountOf e.2))
        (Fields.eraseAll (Fields.names (nestedOperations changes f "Increment")) fields) := by
  have herased : Fields.eraseAll (Fields.names (nestedOperations changes f "Increment")) fields =
      (nestedOperations changes f "Increment").foldl (fun fields e => Fields.erase e.1 fields) fields :=
    List.foldl_map
  rw [mergeAction, any_cutKey? h, herased]
  rfl

theorem mergeAction_nested (hf : hasPoint f = false) (h : OneLevel f changes) :
    mergeAction changes f (nested f changes) =
      .merge true (Fields.names (asking "Delete" f changes))
        ((asking "Increment" f changes).map fun e => (e.1, amountOf e.2))
        (Fields.eraseAll (Fields.names (asking "Increment" f changes)) (nested f changes)) := by
  rw [mergeAction_eq (h.entriesIn_ne_nil hf), nestedOperations_eq "Delete" (h.undotted hf),
    nestedOperations_eq "Increment" (h.undotted hf)]
  rfl

section

variable (hf : hasPoint f = false) (hnodup : (Fields.names changes).Nodup)

include hf hnodup

theorem get?_asking (operation key : String) :
    Fields.get? key (asking operation f changes) =
      (Fields.get? (f ++ "." ++ key) changes).filter (·.operation? = some operation) :=
  get?_filter_entriesIn hf hnodup (·.operation? = some operation) key

theorem mem_names_asking (operation key : String) :
    key ∈ Fields.names (asking operation f changes) ↔
      ∃ v, Fields.get? (f ++ "." ++ key) changes = some v ∧ v.operation? = some operation := by
  rw [← not_iff_not, ← Fields.get?_eq_none_iff, get?_asking hf hnodup, Option.filter_eq_none_iff]
  simp

theorem get?_nested (key : String) :
    Fields.get? key (nested f changes) =
      (Fields.get? (f ++ "." ++ key) changes).filter (·.operation? ≠ some "Delete") :=
  get?_filter_entriesIn hf hnodup (·.operation? ≠ some "Delete") key

theorem get?_merged_nested (h : OneLevel f changes) {stored : Document}
    (hsums : ∀ key v, Fields.get? (f ++ "." ++ key) changes = some v → v.operation? = some "Increment" →
      (sumAt? stored key (amountOf v)).isSome) (key : String) :
    Fields.get? key
        (merged stored (Fields.names (asking "Delete" f changes))
          ((asking "Increment" f changes).map fun e => (e.1, amountOf e.2))
          (Fields.eraseAll (Fields.names (asking "Increment" f changes)) (nested f changes))) =
      writtenAt? changes f stored key := by
  have hincrements : (((asking "Increment" f changes).map fun e => (e.1, amountOf e.2)).map Prod.fst).Nodup := by
    rw [List.map_map]
    exact Fields.nodup_filter _ (nodup_entriesIn hf hnodup)
  have hnested : (Fields.names (nested f changes)).Nodup := Fields.nodup_filter _ (nodup_entriesIn hf hnodup)
  rw [get?_merged (Fields.nodup_eraseAll hnested) hincrements, get?_sumsOf, Fields.get?_eraseAll hnested,
    get?_nested hf hnodup, get?_asking hf hnodup]
  simp only [mem_names_asking hf hnodup]
  unfold writtenAt?
  -- Removals, additions and other entries share no key, so each key is decided by its one entry.
  cases hv : Fields.get? (f ++ "." ++ key) changes with
  | none => simp
  | some v =>
      rcases h.operations key v hv with hop | hop | hop
      · simp [hop, Option.filter]
      · obtain ⟨sum, hsum⟩ := Option.isSome_iff_exists.mp (hsums key v hv hop)
        simp [hop, Option.filter, hsum]
      · simp [hop, Option.filter]

theorem filter_assignments_nested (h : OneLevel f changes) (htype : schema.fieldType? f = some .object)
    (hauth : f ≠ "authData") (hprovider : authDataProvider? f = none) (hu : update schema changes = .ok u) :
    u.assignments.filter (·.column = f) = [⟨f, mergeAction changes f (nested f changes)⟩] := by
  obtain ⟨as, has, rfl⟩ := Result.map_ok hu
  have hobject : Fields.get? f (foldAuthDataFirst (expandDots changes)) = some (.object (nested f changes)) := by
    rw [get?_foldAuthDataFirst hauth hprovider]
    exact get?_expandDots hf hnodup h.not_whole (h.entriesIn_ne_nil hf) (h.undotted hf)
  obtain ⟨action, haction, hfilter⟩ :=
    filter_assignmentsOf has (nodup_foldAuthDataFirst (nodup_expandDots hnodup)) hobject
  -- The object asks for nothing itself, as none of its keys is that of an operation or of a type.
  have hop : Json.operation? (.object (nested f changes)) = none := by
    rw [Json.operation?, Json.get?, h.get?_nested_eq_none hf (.inl rfl)]
    rfl
  have htag : Json.typeTag? (.object (nested f changes)) = none := by
    rw [Json.typeTag?, Json.get?, h.get?_nested_eq_none hf (.inr rfl)]
    rfl
  rw [actionOf_object htype hauth hop htag] at haction
  cases haction
  exact hfilter

end

/--
An update that writes one step inside an object's field sets the column once. Of a stored object, or none, this makes
one in which each key is removed, added to or set as the update says, and every other key is as it was. The sums are
those of doubles that are in range.
-/
theorem nested_update_applies (hnodup : (Fields.names changes).Nodup) (hf : hasPoint f = false)
    (htype : schema.fieldType? f = some .object) (hauth : f ≠ "authData") (hprovider : authDataProvider? f = none)
    (hlevel : OneLevel f changes) (hu : update schema changes = .ok u) :
    ∃ set e, u.sets.filter (fun set => Sql.assignedColumn? (Sql.render set) = some f) = [set] ∧
      Sql.readAssignment? (Sql.render set) = some (f, e) ∧
      ∀ (row : String → Datum) (stored : Document), (row f).fields? = some stored →
        (∀ key v, Fields.get? (f ++ "." ++ key) changes = some v → v.operation? = some "Increment" →
          (sumAt? stored key (amountOf v)).isSome) →
        ∃ new, e.eval row u.written.2 = some (.json (.object new)) ∧
          ∀ key, Fields.get? key new = writtenAt? changes f stored key := by
  have hfilter := filter_assignments_nested hf hnodup hlevel htype hauth hprovider hu
  rw [mergeAction_nested hf hlevel] at hfilter
  have hcast : ∀ a ∈ u.assignments, a.action.HasCast := update_hasCast hu
  obtain ⟨set, e, hset, hread, heval⟩ := Update.exists_merge hcast hfilter
  refine ⟨set, e, hset, hread, fun row stored hstored hsums => ⟨_, heval row stored hstored ?_, ?_⟩⟩
  · intro i hi
    obtain ⟨e, he, rfl⟩ := List.mem_map.mp hi
    obtain ⟨hmem, hop⟩ := List.mem_filter.mp he
    refine hsums e.1 e.2 ?_ (by simpa using hop)
    rw [← get?_entriesIn hf]
    exact (Fields.get?_eq_some_iff (nodup_entriesIn hf hnodup) _ _).mpr hmem
  · exact get?_merged_nested hf hnodup hlevel hsums

def adding (n : Json.Number) : Json := .object [Json.tagged "__op" "Increment", ("amount", .number n)]

def metaChanges : Document :=
  [("meta.count", adding (.integer 2)), ("meta.old", .object [Json.tagged "__op" "Delete"]), ("author", .null),
    ("meta.title", .string "x")]

def storedMeta : Document := [("count", .int 3), ("old", .bool true), ("kept", .array [])]

theorem nested_update_applies_meta :
    ∃ u set e new, update notes metaChanges = .ok u ∧ set ∈ u.sets ∧
      Sql.readAssignment? (Sql.render set) = some ("meta", e) ∧
      e.eval (fun _ => .json (.object storedMeta)) u.written.2 = some (.json (.object new)) ∧
      ["count", "old", "kept", "title"].map (Fields.get? · new) =
        [some (.number (.float (.ofInt 5))), none, some (.array []), some (.string "x")] := by
  have hu : update notes metaChanges = .ok ⟨[⟨"author", .clear⟩,
      ⟨"meta", .merge true ["old"] [("count", amountOf (adding (.integer 2)))] [("title", .string "x")]⟩]⟩ := rfl
  have hlevel : OneLevel "meta" metaChanges := .of_entriesIn (by decide) (by decide) (by decide) (by decide)
  have hentries : ∀ e ∈ entriesIn "meta" metaChanges, e.2.operation? = some "Increment" →
      (sumAt? storedMeta e.1 (amountOf e.2)).isSome := by
    decide +kernel
  have hsums : ∀ key v, Fields.get? ("meta" ++ "." ++ key) metaChanges = some v → v.operation? = some "Increment" →
      (sumAt? storedMeta key (amountOf v)).isSome := by
    intro key v hv hop
    rw [← get?_entriesIn (by decide)] at hv
    exact hentries (key, v) (Fields.mem_of_get?_eq_some hv) hop
  have hcount : writtenAt? metaChanges "meta" storedMeta "count" = some (.number (.float (.ofInt 5))) := by
    have hget : Fields.get? ("meta" ++ "." ++ "count") metaChanges = some (adding (.integer 2)) := rfl
    have hop : (adding (.integer 2)).operation? = some "Increment" := rfl
    have hsum : sumAt? storedMeta "count" (amountOf (adding (.integer 2))) = some (.ofInt 5) := by decide +kernel
    simp only [writtenAt?, hget, hop, hsum]
    rfl
  obtain ⟨set, e, hset, hread, heval⟩ :=
    nested_update_applies (by decide) (by decide) rfl (by decide) (by decide) hlevel hu
  obtain ⟨new, hnew, hkeys⟩ := heval (fun _ => .json (.object storedMeta)) storedMeta rfl hsums
  refine ⟨_, set, e, new, hu, List.mem_of_mem_filter (hset ▸ List.mem_singleton_self set), hread, hnew, ?_⟩
  simp only [List.map_cons, List.map_nil, hkeys, hcount]
  rfl

/-- A field that is named as an entry of auth data. -/
def mailed : Schema := ⟨"Post", [("_auth_data_mail", .ofType .object)], none, []⟩

/-- A field that is named as a place in another one. -/
def dotted : Schema := ⟨"Post", [("a", .ofType .object), ("a.b", .ofType .object)], none, []⟩

def largest : Json.Number := .float ⟨0x7fefffffffffffff⟩

theorem oneLevel_singleton (f key : String) {v : Json}
    (hkey : hasPoint key = false ∧ key ≠ "__op" ∧ key ≠ "__type")
    (hv : v.operation? = none ∨ v.operation? = some "Increment" ∨ v.operation? = some "Delete")
    (hwhole : f ≠ f ++ "." ++ key) : OneLevel f [(f ++ "." ++ key, v)] where
  not_whole := by simpa [Fields.names] using hwhole
  written := ⟨key, .head _⟩
  keys := by
    intro key' hkey'
    have hsame : key' = key := by simpa [Fields.names, String.append_right_inj] using hkey'
    exact hsame ▸ hkey
  operations := by
    intro key' w hw
    rw [Fields.get?] at hw
    split at hw
    next =>
      cases hw
      exact hv
    next => cases hw

/--
What the conditions leave out. An entry of auth data is put into the column of all of them; a name with a point is taken
for a place in the field that it begins with; and where a sum is out of range the engine makes no new object.
-/
theorem nested_update_exceptions :
    (∃ u, update mailed [("_auth_data_mail.k", .int 1)] = .ok u ∧ mailed.fieldType? "_auth_data_mail" = some .object ∧
      OneLevel "_auth_data_mail" [("_auth_data_mail.k", .int 1)] ∧
      ∀ set ∈ u.sets, Sql.assignedColumn? (Sql.render set) ≠ some "_auth_data_mail") ∧
    (∃ u, update dotted [("a.b.k", .int 1)] = .ok u ∧ dotted.fieldType? "a.b" = some .object ∧
      OneLevel "a.b" [("a.b.k", .int 1)] ∧
      ∀ set ∈ u.sets, Sql.assignedColumn? (Sql.render set) ≠ some "a.b") ∧
    ∃ u set e, update notes [("meta.count", adding largest)] = .ok u ∧ notes.fieldType? "meta" = some .object ∧
      OneLevel "meta" [("meta.count", adding largest)] ∧ u.sets = [set] ∧
      Sql.readAssignment? (Sql.render set) = some ("meta", e) ∧
      e.eval (fun _ => .json (.object [("count", .number largest)])) u.written.2 = none := by
  have hread := readAssignment?_merge "meta" [] [("count", amountOf (adding largest))] [] 1
  refine ⟨⟨⟨[⟨"authData", .setProviders [("mail", some (.object [("k", .int 1)]))]⟩]⟩, rfl, rfl, ?_, ?_⟩,
    ⟨⟨[⟨"a", .merge true [] [] [("b", .object [("k", .int 1)])]⟩]⟩, rfl, rfl, ?_, ?_⟩,
    ⟨[⟨"meta", .merge true [] [("count", amountOf (adding largest))] []⟩]⟩, _, _, rfl, rfl, ?_, rfl, hread, ?_⟩
  · exact oneLevel_singleton "_auth_data_mail" "k" (by decide) (by decide) (by decide)
  · decide +kernel
  · exact oneLevel_singleton "a.b" "k" (by decide) (by decide) (by decide)
  · decide +kernel
  · exact oneLevel_singleton "meta" "count" (by decide) (by decide) (by decide)
  · decide +kernel

/-! ## Further inside a field -/

inductive Step
  | key (name : String)
  | item (i : Nat)
deriving DecidableEq, Repr

def Step.take? : Step → Json → Option Json
  | key name, v => v.get? name
  | item i, v => v.item? i

def at? : List Step → Json → Option Json
  | [], v => some v
  | step :: path, v => (step.take? v).bind (at? path)

/-- A value under keys, with nothing beside it. -/
def under (v : Json) : List String → Json
  | [] => v
  | key :: keys => .object [(key, under v keys)]

theorem setAt_empty (v : Json) {keys : List String} (h : keys ≠ []) :
    setAt (some v) keys (.object []) = under v keys := by
  match keys with
  | [] => exact absurd rfl h
  | [key] => rfl
  | key :: next :: keys =>
      rw [setAt_cons (List.cons_ne_nil _ _), under]
      have ih := setAt_empty v (List.cons_ne_nil next keys)
      simpa [fieldsOf, Fields.insert] using ih

theorem at?_under (v : Json) (keys : List String) : at? (keys.map .key) (under v keys) = some v := by
  induction keys with
  | nil => rfl
  | cons key keys ih => simpa [at?, under, Step.take?, Json.get?, Fields.get?] using ih

theorem at?_under_eq_none (v : Json) {keys : List String} {path : List Step} (hbefore : ¬ path <+: keys.map .key)
    (hbehind : ¬ keys.map .key <+: path) : at? path (under v keys) = none := by
  induction keys generalizing path with
  | nil => exact absurd List.nil_prefix hbehind
  | cons key keys ih =>
      cases path with
      | nil => exact absurd List.nil_prefix hbefore
      | cons step path =>
          rw [List.map_cons, List.cons_prefix_cons] at hbefore hbehind
          by_cases hstep : step = .key key
          · subst hstep
            have hrest := ih (fun h => hbefore ⟨rfl, h⟩) (fun h => hbehind ⟨rfl, h⟩)
            simpa [at?, under, Step.take?, Json.get?, Fields.get?] using hrest
          · cases step with
            | key name =>
                have hne : key ≠ name := fun h => hstep (h ▸ rfl)
                simp [at?, under, Step.take?, Json.get?, Fields.get?, hne]
            | item i => rfl

theorem at?_insert_self (key : String) (v : Json) (fields : Document) (path : List Step) :
    at? (.key key :: path) (.object (Fields.insert key v fields)) = at? path v := by
  simp [at?, Step.take?, Json.get?, Fields.get?_insert_self]

theorem at?_insert_of_ne {step : Step} {key : String} (h : step ≠ .key key) (v : Json) (fields : Document)
    (path : List Step) :
    at? (step :: path) (.object (Fields.insert key v fields)) = at? (step :: path) (.object fields) := by
  cases step with
  | key name =>
      have hne : name ≠ key := fun hname => h (congrArg Step.key hname)
      simp [at?, Step.take?, Json.get?, Fields.get?_insert_of_ne hne]
  | item i => rfl

/-- Beside the path that is written, its first key holds nothing any more. -/
theorem at?_insert_under (v : Json) {first : String} {keys : List String} (stored : Document) {path : List Step}
    (hbefore : ¬ path <+: (first :: keys).map .key) (hbehind : ¬ (first :: keys).map .key <+: path) :
    at? path (.object (Fields.insert first (under v keys) stored)) =
      if path.head? = some (.key first) then none else at? path (.object stored) := by
  cases path with
  | nil => exact absurd List.nil_prefix hbefore
  | cons step path =>
      rw [List.map_cons, List.cons_prefix_cons] at hbefore hbehind
      rw [List.head?_cons]
      by_cases hstep : step = .key first
      · subst hstep
        rw [at?_insert_self, if_pos rfl]
        exact at?_under_eq_none v (fun h => hbefore ⟨rfl, h⟩) (fun h => hbehind ⟨rfl, h⟩)
      · rw [at?_insert_of_ne hstep, if_neg (fun h => hstep (Option.some.inj h))]

section

variable {key : String} {keys : List String} {v : Json}

theorem cutKey?_of_pieces (hkey : Text.pieces '.' key = f :: keys) (hkeys : keys ≠ []) :
    ∃ sub, cutKey? key = some (f, sub) ∧ Text.pieces '.' sub = keys := by
  have hpoint : hasPoint key = true := by
    by_contra hpoint
    rw [pieces_of_undotted (Bool.not_eq_true _ ▸ hpoint)] at hkey
    exact hkeys (List.cons.inj hkey).2.symm
  obtain ⟨root, sub, hcut⟩ := exists_cutKey? hpoint
  rw [pieces_of_cutKey? hcut] at hkey
  obtain ⟨rfl, hsub⟩ := List.cons.inj hkey
  exact ⟨sub, hcut, hsub⟩

theorem expandDots_singleton (hkey : Text.pieces '.' key = f :: keys) (hkeys : keys ≠ []) (hv : v.operation? = none) :
    expandDots [(key, v)] = [(f, under v keys)] := by
  obtain ⟨sub, hcut, hsub⟩ := cutKey?_of_pieces hkey hkeys
  have hpoint : hasPoint key = true := hasPoint_of_cutKey? hcut
  have hset : unlessDelete v = some v := by simp [unlessDelete, hv]
  have hnest : nest [] (key, v) = [(f, under v keys)] := by
    rw [nest_eq hcut, hset, hsub]
    exact congrArg (fun w => [(f, w)]) (setAt_empty v hkeys)
  simpa [expandDots_eq, hpoint] using hnest

/-- The only entry of an update is no operation one step inside a field if its key goes further. -/
theorem mergeAction_deep (hkey : Text.pieces '.' key = f :: keys) (hdeep : 2 ≤ keys.length) (fields : Document) :
    mergeAction [(key, v)] f fields = .merge true [] [] fields := by
  have hkeys : keys ≠ [] := by
    rintro rfl
    simp at hdeep
  obtain ⟨sub, hcut, hsub⟩ := cutKey?_of_pieces hkey hkeys
  have hpoint : hasPoint sub = true := by
    by_contra hpoint
    rw [pieces_of_undotted (Bool.not_eq_true _ ▸ hpoint)] at hsub
    simp [← hsub] at hdeep
  simp [mergeAction, nestedOperations, hcut, hpoint]

theorem merged_singleton (stored : Document) (name : String) (w : Json) :
    merged stored [] [] [(name, w)] = Fields.insert name w stored := by
  simp [merged, sumsOf, Fields.insertAll]

/-- An object of one field that is an object itself is no operation. -/
theorem text?_get?_under (v : Json) (name first second : String) (rest : List String) :
    (Json.get? name (under v (first :: second :: rest))).bind Json.text? = none := by
  rw [under, Json.get?, Fields.get?]
  split <;> rfl

theorem update_deep {first second : String} {rest : List String}
    (hkey : Text.pieces '.' key = f :: first :: second :: rest) (hv : v.operation? = none)
    (htype : schema.fieldType? f = some .object) (hauth : f ≠ "authData") (hprovider : authDataProvider? f = none)
    (hu : update schema [(key, v)] = .ok u) :
    u = ⟨[⟨f, .merge true [] [] [(first, under v (second :: rest))]⟩]⟩ := by
  have hdeep : 2 ≤ (first :: second :: rest).length := by simp
  obtain ⟨as, has, rfl⟩ := Result.map_ok hu
  rw [expandDots_singleton hkey (List.cons_ne_nil _ _) hv, foldAuthDataFirst_eq_self hprovider] at has
  obtain ⟨action, haction, rfl⟩ := assignmentsOf_singleton has
  have hmerge := actionOf_object htype hauth (text?_get?_under v "__op" first second rest)
    (text?_get?_under v "__type" first second rest) [(key, v)]
  rw [under, hmerge, mergeAction_deep hkey hdeep] at haction
  cases haction
  rfl

/--
An update of one place further inside a field puts the value at its place. Of the stored object it keeps what is under
other keys; of what the path's first key held nothing stays beside the path.
-/
theorem deep_write_replaces_root (hkey : Text.pieces '.' key = f :: keys) (hdeep : 2 ≤ keys.length)
    (hv : v.operation? = none) (htype : schema.fieldType? f = some .object) (hauth : f ≠ "authData")
    (hprovider : authDataProvider? f = none) (hu : update schema [(key, v)] = .ok u) :
    ∃ set e, u.sets = [set] ∧ Sql.readAssignment? (Sql.render set) = some (f, e) ∧
      ∀ (row : String → Datum) (stored : Document), (row f).fields? = some stored →
        ∃ new, e.eval row u.written.2 = some (.json (.object new)) ∧
          at? (keys.map .key) (.object new) = some v ∧
          ∀ path, ¬ path <+: keys.map .key → ¬ keys.map .key <+: path →
            at? path (.object new) =
              if path.head? = keys.head?.map .key then none else at? path (.object stored) := by
  match keys with
  | [] | [_] => simp at hdeep
  | first :: second :: rest =>
      obtain rfl := update_deep hkey hv htype hauth hprovider hu
      let w := under v (second :: rest)
      have hfilter : (Update.mk [⟨f, .merge true [] [] [(first, w)]⟩]).assignments.filter (·.column = f) =
          [⟨f, .merge true [] [] [(first, w)]⟩] := by simp
      obtain ⟨set, e, hset, hread, heval⟩ := Update.exists_merge (update_hasCast hu) hfilter
      have hsame : [set] = (Update.mk [⟨f, .merge true [] [] [(first, w)]⟩]).sets := by
        have hmem : set ∈ (Update.mk [⟨f, .merge true [] [] [(first, w)]⟩]).sets :=
          List.mem_of_mem_filter (hset ▸ List.mem_singleton_self set)
        exact congrArg ([·]) (List.mem_singleton.mp hmem)
      refine ⟨set, e, hsame.symm, hread, fun row stored hstored => ⟨Fields.insert first w stored, ?_, ?_, ?_⟩⟩
      · rw [← merged_singleton]
        exact heval row stored hstored nofun
      · exact (at?_insert_self first w stored _).trans (at?_under v (second :: rest))
      · exact fun path hbefore hbehind => at?_insert_under v stored hbefore hbehind

end

def storedTree : Document := [("a", .object [("b", .int 0), ("c", .int 1)]), ("d", .int 2)]

theorem deep_write_replaces_root_meta :
    ∃ u set e new, update notes [("meta.a.b", .int 7)] = .ok u ∧ u.sets = [set] ∧
      Sql.readAssignment? (Sql.render set) = some ("meta", e) ∧
      e.eval (fun _ => .json (.object storedTree)) u.written.2 = some (.json (.object new)) ∧
      at? [.key "a", .key "b"] (.object new) = some (.int 7) ∧
      at? [.key "a", .key "c"] (.object new) = none ∧ at? [.key "d"] (.object new) = some (.int 2) := by
  have hu : update notes [("meta.a.b", .int 7)] =
      .ok ⟨[⟨"meta", .merge true [] [] [("a", .object [("b", .int 7)])]⟩]⟩ := rfl
  have hkey : Text.pieces '.' "meta.a.b" = ["meta", "a", "b"] := rfl
  obtain ⟨set, e, hset, hread, heval⟩ :=
    deep_write_replaces_root hkey (by decide) rfl rfl (by decide) (by decide) hu
  obtain ⟨new, hnew, hplace, hrest⟩ := heval (fun _ => .json (.object storedTree)) storedTree rfl
  have hsibling := hrest [.key "a", .key "c"] (by decide) (by decide)
  have hbeside := hrest [.key "d"] (by decide) (by decide)
  exact ⟨_, set, e, new, hu, hset, hread, hnew, hplace, hsibling, hbeside⟩

theorem deep_write_loses_siblings :
    ∃ u set e new, update notes [("meta.a.b", .int 7)] = .ok u ∧ notes.fieldType? "meta" = some .object ∧
      u.sets = [set] ∧ Sql.readAssignment? (Sql.render set) = some ("meta", e) ∧
      e.eval (fun _ => .json (.object storedTree)) u.written.2 = some (.json (.object new)) ∧
      at? [.key "a", .key "c"] (.object storedTree) = some (.int 1) ∧
      at? [.key "a", .key "c"] (.object new) = none := by
  have hread := readAssignment?_merge "meta" [] [] [("a", .object [("b", .int 7)])] 1
  have hstored : Datum.fields? (.json (.object storedTree)) = some storedTree := rfl
  exact ⟨⟨[⟨"meta", .merge true [] [] [("a", .object [("b", .int 7)])]⟩]⟩, _, _,
    merged storedTree [] [] [("a", .object [("b", .int 7)])], rfl, rfl, rfl, hread,
    eval_merge hstored nofun ⟨rfl, trivial⟩, rfl, rfl⟩

end Write

end Docstore
