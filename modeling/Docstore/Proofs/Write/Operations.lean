import Docstore.Proofs.Write.AuthData
import Docstore.Proofs.Write.Formulas

/-!
# Operations in updates

What becomes of the operations that an update's values ask for. Where a key is that of a column, is one step inside an
object's field or asks for a removal further inside, the column is set to what the operation makes of the stored value,
and the operation itself is bound nowhere (`operations_performed`). At other keys it is not so
(`operations_not_performed`).
-/

namespace Docstore

namespace Write

open Docstore.Sql (Bindings Datum Template)

/-! ## Operations -/

inductive Operation
  | increment (amount : Double)
  | change (op : ListOperation) (items : Json)
  | delete

def texts? : Json → Option (List String)
  | .array items => items.mapM Json.text?
  | _ => none

namespace Operation

def of? (v : Json) : Option Operation :=
  match v.operation? with
  | some "Increment" => some (increment (amountOf v))
  | some "Add" => some (change .add ((v.get? "objects").getD (.array [])))
  | some "AddUnique" => some (change .addUnique ((v.get? "objects").getD (.array [])))
  | some "Remove" => some (change .remove ((v.get? "objects").getD (.array [])))
  | some "Delete" => some delete
  | _ => none

/-- The action that does an operation to a column as a whole, which may keep a native list. -/
def action? (native : Bool) : Operation → Option Action
  | increment amount => some (.increment amount)
  | change op items => if native then (texts? items).map (.changeStrings op) else some (.changeList op items)
  | delete => some .clear

/-- What an operation on a column has to bind. -/
def values? (native : Bool) : Operation → Option (List Value)
  | increment amount => some [.number amount]
  | change _ items => if native then (texts? items).map fun texts => [.strings texts] else some [.json items]
  | delete => some []

/-- What an operation makes of a column. -/
def result? (c : Comparison) (row : Row) (column : String) (native : Bool) : Operation → Option Outcome
  | increment amount => (sumOf? (row.data column) amount).map fun sum => .datum (.number sum)
  | change op items =>
    if native then (texts? items).map fun texts => .strings (op.applyStrings c ((row.strings column).getD []) texts)
    else do
      let stored ← listOf? (row.data column)
      let items ← listOf? (.json items)
      return .datum (.json (.array (op.apply c stored items)))
  | delete => some (.datum .null)

theorem of?_eq_delete_iff {v : Json} : of? v = some delete ↔ v.operation? = some "Delete" := by
  unfold of?
  split <;> simp_all

end Operation

/-- An update that sets a column once, to what a reader takes for a formula. -/
def Update.SetsTo (u : Update) (column : String) (formula : Formula) : Prop :=
  ∃ set, u.sets.filter (fun set => Sql.assignedColumn? (Sql.render set) = some column) = [set] ∧
    readFormula? (Sql.render set) = some (column, formula)

/-- Whether a column keeps a native list of strings. -/
def isNative (schema : Schema) (column : String) : Bool := (schema.fieldType? column).any (·.isStringArray)

variable {schema : Schema} {changes : Document} {u : Update} {key f sub : String} {v : Json} {operation : Operation}

theorem Update.exists_setsTo (hu : update schema changes = .ok u) {column : String} {action : Action}
    (hassigned : u.assignments.filter (·.column = column) = [⟨column, action⟩])
    (hformula : ∀ n, ∃ formula, action.formula? column n = some formula) :
    ∃ n formula, u.SetsTo column formula ∧ action.formula? column n = some formula ∧
      u.valuesFor column = (Assignment.template ⟨column, action⟩).values ∧
      u.written.2.Holds n (u.valuesFor column) := by
  obtain ⟨n, hsets, hholds⟩ := Update.exists_set (update_hasCast hu) hassigned
  obtain ⟨formula, hn⟩ := hformula n
  have hvalues : u.valuesFor column = (Assignment.template ⟨column, action⟩).values := by
    rw [valuesFor, hassigned]
    simp
  exact ⟨n, formula, ⟨_, hsets, readFormula?_template hn⟩, hn, hvalues, hvalues ▸ hholds⟩

theorem Update.exists_setsTo_singleton {column : String} {action : Action}
    (hu : update schema changes = .ok ⟨[⟨column, action⟩]⟩)
    (hformula : ∀ n, ∃ formula, action.formula? column n = some formula) :
    ∃ n formula, (Update.mk [⟨column, action⟩]).SetsTo column formula ∧ action.formula? column n = some formula := by
  have hassigned : (Update.mk [⟨column, action⟩]).assignments.filter (·.column = column) = [⟨column, action⟩] := by simp
  obtain ⟨n, formula, hset, hn, -⟩ := Update.exists_setsTo hu hassigned hformula
  exact ⟨n, formula, hset, hn⟩

theorem assignments_of_get? (hnodup : (Fields.names changes).Nodup) (hu : update schema changes = .ok u)
    {column : String} (hget : Fields.get? column (foldAuthDataFirst (expandDots changes)) = some v) :
    ∃ action, actionOf schema changes column v = .ok action ∧
      u.assignments.filter (·.column = column) = (action.map (Assignment.mk column)).toList := by
  obtain ⟨as, has, rfl⟩ := Result.map_ok hu
  exact filter_assignmentsOf has (nodup_foldAuthDataFirst (nodup_expandDots hnodup)) hget

/-! ## Columns as a whole -/

theorem texts?_of_stringsOf {op : ListOperation} {column : String} {items : Json} {texts : List String}
    (h : stringsOf op column items = .ok texts) : texts? items = some texts := by
  cases items with
  | array items =>
      rw [stringsOf] at h
      rw [texts?]
      induction items generalizing texts with
      | nil =>
          cases h
          rfl
      | cons item items ih =>
          rw [List.mapM_cons] at h
          obtain ⟨text, htext, h⟩ := Result.bind_ok h
          obtain ⟨others, hothers, h⟩ := Result.bind_ok h
          cases h
          have hitem : item.text? = some text := by
            cases item <;> cases htext
            rfl
          rw [List.mapM_cons, hitem, ih hothers]
          rfl
  | null | bool b | number x | string s | object fields => cases h

theorem action?_of_listAction {op : ListOperation} {column : String} {action : Action}
    (h : listAction (schema.fieldType? column) column op v = .ok action) :
    (Operation.change op ((v.get? "objects").getD (.array []))).action? (isNative schema column) = some action := by
  unfold listAction at h
  dsimp only at h
  rw [Operation.action?, isNative]
  split at h
  next hnative =>
    obtain ⟨texts, htexts, rfl⟩ := Result.map_ok h
    rw [if_pos hnative, texts?_of_stringsOf htexts]
    rfl
  next hnative =>
    cases h
    rw [if_neg hnative]

theorem actionOf_operation {column : String} {action : Option Action} (hop : Operation.of? v = some operation)
    (hauth : column ≠ "authData") (h : actionOf schema changes column v = .ok action) :
    action.isSome ∧ operation.action? (isNative schema column) = action := by
  have hnull : v.isNull = false := by
    cases v <;> first | rfl | cases hop
  unfold actionOf at h
  dsimp only at h
  rw [hnull, if_neg Bool.false_ne_true, if_neg hauth] at h
  unfold Operation.of? at hop
  split at hop
  case h_1 hname | h_5 hname =>
    cases hop
    rw [hname] at h
    cases h
    exact ⟨rfl, rfl⟩
  case h_2 hname | h_3 hname | h_4 hname =>
    cases hop
    rw [hname] at h
    obtain ⟨a, ha, rfl⟩ := Result.map_ok h
    exact ⟨rfl, action?_of_listAction ha⟩
  case h_6 => cases hop

theorem Operation.formula?_action {native : Bool} {action : Action} (h : operation.action? native = some action)
    (column : String) (n : Nat) :
    ∃ formula, action.formula? column n = some formula ∧
      operation.values? native = some (Assignment.template ⟨column, action⟩).values ∧
      ∀ (c : Comparison) (row : Row) (b : Bindings), b.Holds n (Assignment.template ⟨column, action⟩).values →
        formula.eval c row b = operation.result? c row column native := by
  cases operation with
  | increment amount =>
      cases h
      refine ⟨_, rfl, rfl, fun c row b hholds => ?_⟩
      rw [Formula.eval, eval_increment_column hholds.1, Option.map_map]
      rfl
  | delete =>
      cases h
      exact ⟨_, rfl, rfl, fun c row b _ => rfl⟩
  | change op items =>
      cases native with
      | true =>
          rw [action?, if_pos rfl] at h
          obtain ⟨texts, htexts, rfl⟩ := Option.map_eq_some_iff.mp h
          have hvalues : (Assignment.template ⟨column, .changeStrings op texts⟩).values = [.strings texts] := by
            cases op <;> rfl
          refine ⟨_, rfl, ?_, fun c row b hholds => ?_⟩
          · rw [values?, if_pos rfl, htexts, hvalues]
            rfl
          · rw [hvalues] at hholds
            rw [result?, if_pos rfl, htexts, Formula.eval, Call.eval, hholds.1]
            rfl
      | false =>
          rw [action?, if_neg Bool.false_ne_true] at h
          cases h
          have hvalues : (Assignment.template ⟨column, .changeList op items⟩).values = [.json items] := by
            cases op <;> rfl
          have hitems : boundItems? (.json items) = listOf? (.json items) := by
            cases items <;> rfl
          refine ⟨_, rfl, ?_, fun c row b hholds => ?_⟩
          · rw [values?, if_neg Bool.false_ne_true, hvalues]
          · rw [hvalues] at hholds
            rw [result?, if_neg Bool.false_ne_true, Formula.eval, Call.eval, hholds.1, Option.bind_some, hitems]

/-- An operation on a column as a whole is what the column is set to. -/
theorem column_operation (hnodup : (Fields.names changes).Nodup) (hu : update schema changes = .ok u)
    (hmem : (key, v) ∈ changes) (halone : Alone key changes) (hop : Operation.of? v = some operation)
    (hpoint : hasPoint key = false) (hauth : key ≠ "authData") (hprovider : authDataProvider? key = none) :
    ∃ formula, u.SetsTo key formula ∧ operation.values? (isNative schema key) = some (u.valuesFor key) ∧
      ∀ (c : Comparison) (row : Row),
        formula.eval c row u.written.2 = operation.result? c row key (isNative schema key) := by
  have hget : Fields.get? key (foldAuthDataFirst (expandDots changes)) = some v := by
    rw [get?_foldAuthDataFirst hauth hprovider, halone.get?_expandDots hnodup hpoint hmem]
  obtain ⟨action, haction, hfilter⟩ := assignments_of_get? hnodup hu hget
  obtain ⟨hsome, haction⟩ := actionOf_operation hop hauth haction
  obtain ⟨action, rfl⟩ := Option.isSome_iff_exists.mp hsome
  obtain ⟨n, formula, hset, hformula, hvalues, hholds⟩ := Update.exists_setsTo hu hfilter fun n =>
    (operation.formula?_action haction key n).imp fun _ h => h.1
  obtain ⟨_, hformula', hbound, heval⟩ := operation.formula?_action haction key n
  cases hformula.symm.trans hformula'
  rw [hvalues] at hholds ⊢
  exact ⟨formula, hset, hbound, fun c row => heval c row _ hholds⟩

/-! ## Places inside a field -/

theorem mem_nestedOperations {name : String} {w : Json} {asked : String} :
    (name, w) ∈ nestedOperations changes f asked ↔
      (name, w) ∈ entriesIn f changes ∧ hasPoint name = false ∧ w.operation? = some asked := by
  rw [nestedOperations_eq_filter, List.mem_filter]
  simp

/-- What an update puts over the object in a field: what is written inside the field, without the sums. -/
def overlaid (f : String) (changes : Document) : Document :=
  Fields.eraseAll (Fields.names (nestedOperations changes f "Increment")) ((entriesIn f changes).foldl nest [])

/-- What an update of places inside a field makes of the object there. -/
def rewritten (f : String) (changes stored : Document) : Document :=
  merged stored (Fields.names (nestedOperations changes f "Delete"))
    ((nestedOperations changes f "Increment").map fun e => (e.1, amountOf e.2)) (overlaid f changes)

theorem nodup_overlaid (f : String) (changes : Document) : (Fields.names (overlaid f changes)).Nodup :=
  Fields.nodup_eraseAll (nodup_foldl_nest nodup_nil _)

theorem get?_overlaid (f : String) (changes : Document) (name : String) :
    Fields.get? name (overlaid f changes) =
      if name ∈ Fields.names (nestedOperations changes f "Increment") then none
      else Fields.get? name ((entriesIn f changes).foldl nest []) :=
  Fields.get?_eraseAll (nodup_foldl_nest nodup_nil _)

section

variable (hf : hasPoint f = false) (hnodup : (Fields.names changes).Nodup)
include hf hnodup

theorem nodup_nestedOperations (asked : String) : (Fields.names (nestedOperations changes f asked)).Nodup := by
  rw [nestedOperations_eq_filter]
  exact Fields.nodup_filter _ (nodup_entriesIn hf hnodup)

/-- An entry asks for one operation only. -/
theorem not_mem_nestedOperations {operation asked : String} (hentry : (sub, v) ∈ entriesIn f changes)
    (hasked : v.operation? = some operation) (hne : operation ≠ asked) :
    sub ∉ Fields.names (nestedOperations changes f asked) := by
  intro hname
  obtain ⟨⟨_, w⟩, hw, rfl⟩ := List.mem_map.mp hname
  obtain ⟨hw, -, hasked'⟩ := mem_nestedOperations.mp hw
  have hentries : (Fields.names (entriesIn f changes)).Nodup := nodup_entriesIn hf hnodup
  have hsame : some v = some w := by
    rw [← (Fields.get?_eq_some_iff hentries _ _).mpr hentry, (Fields.get?_eq_some_iff hentries _ _).mpr hw]
  cases hsame
  exact hne (Option.some.inj (hasked.symm.trans hasked'))

theorem get?_rewritten (stored : Document) (name : String) :
    Fields.get? name (rewritten f changes stored) =
      (Fields.get? name (overlaid f changes)).or
        (((Fields.get? name (nestedOperations changes f "Increment")).map fun w =>
            .number (.float ((sumAt? stored name (amountOf w)).getD 0))).or
          (if name ∈ Fields.names (nestedOperations changes f "Delete") then none else Fields.get? name stored)) := by
  have hincrements :
      (((nestedOperations changes f "Increment").map fun e => (e.1, amountOf e.2)).map Prod.fst).Nodup := by
    rw [List.map_map]
    exact nodup_nestedOperations hf hnodup "Increment"
  rw [rewritten, get?_merged (nodup_overlaid f changes) hincrements, get?_sumsOf]

end

namespace Operation

/-- An operation that can be done to a place inside an object's field. -/
def IsNested (sub : String) : Operation → Prop
  | increment _ => hasPoint sub = false
  | change _ _ => False
  | delete => True

/-- What an operation leaves at a place inside a stored object. -/
def resultAt? (stored : Document) (sub : String) : Operation → Option Json
  | increment amount => (sumAt? stored sub amount).map fun sum => .number (.float sum)
  | _ => none

theorem of?_eq_increment {amount : Double} (h : of? v = some (increment amount)) :
    v.operation? = some "Increment" ∧ amount = amountOf v := by
  unfold of? at h
  split at h <;> simp_all

end Operation

section

variable (hnodup : (Fields.names changes).Nodup) (hmem : (key, v) ∈ changes) (hcut : cutKey? key = some (f, sub))
include hnodup hmem hcut

theorem at?_increment (hsub : hasPoint sub = false) (hasked : v.operation? = some "Increment") :
    at? (steps sub) (.object (overlaid f changes)) = none ∧
      ∀ stored : Document,
        (∀ e ∈ nestedOperations changes f "Increment", (sumAt? stored e.1 (amountOf e.2)).isSome) →
        at? (steps sub) (.object (rewritten f changes stored)) =
          (sumAt? stored sub (amountOf v)).map fun sum => .number (.float sum) := by
  have hf : hasPoint f = false := (cutKey?_eq_some_iff.mp hcut).2
  have hentry : (sub, v) ∈ nestedOperations changes f "Increment" :=
    mem_nestedOperations.mpr ⟨mem_entriesIn.mpr ⟨key, hcut, hmem⟩, hsub, hasked⟩
  have hname : sub ∈ Fields.names (nestedOperations changes f "Increment") := List.mem_map_of_mem hentry
  have hoverlaid : Fields.get? sub (overlaid f changes) = none := by
    rw [get?_overlaid, if_pos hname]
  have hget : Fields.get? sub (nestedOperations changes f "Increment") = some v :=
    (Fields.get?_eq_some_iff (nodup_nestedOperations hf hnodup _) _ _).mpr hentry
  rw [steps_of_undotted hsub, at?_singleton]
  refine ⟨hoverlaid, fun stored hsums => ?_⟩
  obtain ⟨sum, hsum⟩ := Option.isSome_iff_exists.mp (hsums _ hentry)
  rw [at?_singleton, get?_rewritten hf hnodup, hoverlaid, hget]
  simp [hsum]

theorem at?_delete (halone : Alone key changes) (hasked : v.operation? = some "Delete") :
    at? (steps sub) (.object (overlaid f changes)) = none ∧
      ∀ stored : Document, at? (steps sub) (.object (rewritten f changes stored)) = none := by
  have hf : hasPoint f = false := (cutKey?_eq_some_iff.mp hcut).2
  have hinside : (sub, v) ∈ entriesIn f changes := mem_entriesIn.mpr ⟨key, hcut, hmem⟩
  have hsubAlone : Alone sub (entriesIn f changes) := halone.entriesIn hcut
  have hplaced := hsubAlone.placed (nodup_entriesIn hf hnodup) hinside
  rw [unlessDelete, if_pos hasked] at hplaced
  cases hsub : hasPoint sub with
  | false =>
      have hincrement : sub ∉ Fields.names (nestedOperations changes f "Increment") :=
        not_mem_nestedOperations hf hnodup hinside hasked (by decide)
      have hdelete : sub ∈ Fields.names (nestedOperations changes f "Delete") :=
        List.mem_map_of_mem (mem_nestedOperations.mpr ⟨hinside, hsub, hasked⟩)
      rw [steps_of_undotted hsub, at?_singleton] at hplaced
      have hoverlaid : Fields.get? sub (overlaid f changes) = none := by
        rw [get?_overlaid, hplaced, ite_self]
      rw [steps_of_undotted hsub, at?_singleton]
      refine ⟨hoverlaid, fun stored => ?_⟩
      rw [at?_singleton, get?_rewritten hf hnodup, hoverlaid, if_pos hdelete, Fields.get?_eq_none_iff.mpr hincrement]
      rfl
  | true =>
      -- The object that the place is in is put over the stored one as a whole.
      obtain ⟨root, rest, hcut'⟩ := exists_cutKey? hsub
      have hincrement : root ∉ Fields.names (nestedOperations changes f "Increment") := by
        intro hname
        obtain ⟨e, he, rfl⟩ := List.mem_map.mp hname
        exact hsubAlone.not_mem_names hcut' (List.mem_map_of_mem (mem_nestedOperations.mp he).1)
      have hobject := hsubAlone.get?_foldl_nest_inside hcut' hinside
      have hoverlaid :
          Fields.get? root (overlaid f changes) = Fields.get? root ((entriesIn f changes).foldl nest []) := by
        rw [get?_overlaid, if_neg hincrement]
      rw [steps_of_cutKey? hcut', at?_key, hobject] at hplaced
      rw [steps_of_cutKey? hcut', at?_key, hoverlaid, hobject]
      refine ⟨hplaced, fun stored => ?_⟩
      rw [at?_key, get?_rewritten hf hnodup, hoverlaid, hobject]
      exact hplaced

/-- The place of an operation holds nothing of what is put over the stored object, and its result afterwards. -/
theorem at?_operation (halone : Alone key changes) (hop : Operation.of? v = some operation)
    (hnested : operation.IsNested sub) :
    at? (steps sub) (.object (overlaid f changes)) = none ∧
      ∀ stored : Document,
        (∀ e ∈ nestedOperations changes f "Increment", (sumAt? stored e.1 (amountOf e.2)).isSome) →
        at? (steps sub) (.object (rewritten f changes stored)) = operation.resultAt? stored sub := by
  cases operation with
  | increment amount =>
      obtain ⟨hasked, rfl⟩ := Operation.of?_eq_increment hop
      exact at?_increment hnodup hmem hcut hnested hasked
  | change op items => cases hnested
  | delete =>
      obtain ⟨hoverlaid, hrewritten⟩ :=
        at?_delete hnodup hmem hcut halone (Operation.of?_eq_delete_iff.mp hop)
      exact ⟨hoverlaid, fun stored _ => hrewritten stored⟩

end

theorem text?_get?_inside {name : String} (hf : hasPoint f = false) (hname : hasPoint name = false)
    (h : f ++ "." ++ name ∉ Fields.names changes) :
    (Json.get? name (.object ((entriesIn f changes).foldl nest []))).bind Json.text? = none := by
  have hentries : name ∉ Fields.names (entriesIn f changes) := fun hmem => h (mem_names_of_entriesIn hf hmem)
  rw [Json.get?, get?_foldl_nest hname hentries]
  split <;> rfl

/-- An object that asks for nothing itself is merged into the field, or the field is of another type. -/
theorem mergeAction_of_actionOf {fields : Document} {action : Option Action} (hauth : f ≠ "authData")
    (hop : Json.operation? (.object fields) = none) (htag : Json.typeTag? (.object fields) = none)
    (h : actionOf schema changes f (.object fields) = .ok action) : action = some (mergeAction changes f fields) := by
  by_cases htype : schema.fieldType? f = some .object
  · rw [actionOf_object htype hauth hop htag] at h
    cases h
    rfl
  · simp [actionOf, setAction, Json.isNull, hauth, hop, htag, htype, fail] at h

/-- An operation at a place inside a field leaves there what it should, of any stored object. -/
theorem nested_operation (hnodup : (Fields.names changes).Nodup) (hu : update schema changes = .ok u)
    (hmem : (key, v) ∈ changes) (halone : Alone key changes) (hop : Operation.of? v = some operation)
    (hcut : cutKey? key = some (f, sub)) (hauth : f ≠ "authData") (hprovider : authDataProvider? f = none)
    (hkeys : f ++ ".__op" ∉ Fields.names changes ∧ f ++ ".__type" ∉ Fields.names changes)
    (hnested : operation.IsNested sub) :
    ∃ formula, u.SetsTo f formula ∧ (∀ d, .json d ∈ u.valuesFor f → at? (steps sub) d = none) ∧
      ∀ (c : Comparison) (row : Row) (stored : Document), (row.data f).fields? = some stored →
        (∀ e ∈ nestedOperations changes f "Increment", (sumAt? stored e.1 (amountOf e.2)).isSome) →
        ∃ new, formula.eval c row u.written.2 = some (.datum (.json (.object new))) ∧
          at? (steps sub) (.object new) = operation.resultAt? stored sub := by
  have hf : hasPoint f = false := (cutKey?_eq_some_iff.mp hcut).2
  have hsome : entriesIn f changes ≠ [] := List.ne_nil_of_mem (mem_entriesIn.mpr ⟨key, hcut, hmem⟩)
  have hget : Fields.get? f (foldAuthDataFirst (expandDots changes)) =
      some (.object ((entriesIn f changes).foldl nest [])) := by
    rw [get?_foldAuthDataFirst hauth hprovider, halone.get?_expandDots_inside hcut hmem]
  obtain ⟨action, haction, hfilter⟩ := assignments_of_get? hnodup hu hget
  have hasks : Json.operation? (.object ((entriesIn f changes).foldl nest [])) = none :=
    text?_get?_inside hf (by decide) (by simpa [String.append_assoc] using hkeys.1)
  have htag : Json.typeTag? (.object ((entriesIn f changes).foldl nest [])) = none :=
    text?_get?_inside hf (by decide) (by simpa [String.append_assoc] using hkeys.2)
  obtain rfl := mergeAction_of_actionOf hauth hasks htag haction
  rw [mergeAction_eq hsome] at hfilter
  obtain ⟨n, formula, hset, hformula, hvalues, hholds⟩ := Update.exists_setsTo hu hfilter fun n => ⟨_, rfl⟩
  cases hformula
  rw [hvalues] at hholds
  obtain ⟨hoverlaid, hrewritten⟩ := at?_operation hnodup hmem hcut halone hop hnested
  refine ⟨_, hset, fun d hd => ?_, fun c row stored hstored hsums =>
    ⟨rewritten f changes stored, ?_, hrewritten stored hsums⟩⟩
  · rw [hvalues, values_merge] at hd
    obtain rfl : d = .object (overlaid f changes) := by simpa [overlaid] using hd
    exact hoverlaid
  · have hincrements : ∀ i ∈ (nestedOperations changes f "Increment").map fun e => (e.1, amountOf e.2),
        (sumAt? stored i.1 i.2).isSome := List.forall_mem_map.mpr hsums
    exact congrArg (Option.map Outcome.datum) (eval_merge hstored hincrements hholds)

/-! ## Places in auth data -/

/-- A place in auth data that is to be removed is left empty, whatever is stored. -/
theorem authData_removal (hnodup : (Fields.names changes).Nodup) (hu : update schema changes = .ok u)
    (hmem : (key, v) ∈ changes) (halone : Alone key changes) (hdelete : v.operation? = some "Delete")
    {provider : String} {rest : List String} (hplace : authPlace? key = some (provider :: rest))
    (hauth : firstPiece key = "authData" → rest ≠ [] ∧ "_auth_data_" ++ provider ∉ topKeys changes) :
    ∃ formula, u.SetsTo "authData" formula ∧
      (∃ providers : List (String × Option Json),
        u.valuesFor "authData" = providers.flatMap (fun e => [.string e.1, Assignment.providerValue e.2]) ∧
        Unset provider (rest.map .key) providers) ∧
      ∀ (c : Comparison) (row : Row) (stored : Document), (row.data "authData").fields? = some stored →
        ∃ new, formula.eval c row u.written.2 = some (.datum (.json (.object new))) ∧
          at? (.key provider :: rest.map .key) (.object new) = none := by
  obtain ⟨fields, hget, hname, hunset⟩ := removes_of_authPlace? hnodup hmem halone hdelete hplace hauth
  rw [← names_entriesOf] at hname
  obtain ⟨action, haction, hfilter⟩ := assignments_of_get? hnodup hu hget
  obtain rfl : action = some (.setProviders (entriesOf fields)) := (Except.ok.inj haction).symm
  have hsome : entriesOf fields ≠ [] := by
    intro hnil
    rw [hnil] at hname
    cases hname
  obtain ⟨n, formula, hset, hformula, hbound, hholds⟩ := Update.exists_setsTo hu hfilter fun n =>
    ⟨_, if_neg hsome⟩
  rw [Action.formula?, if_neg hsome] at hformula
  cases hformula
  have hvalues : u.valuesFor "authData" =
      (entriesOf fields).flatMap fun e => [.string e.1, Assignment.providerValue e.2] :=
    hbound.trans (Assignment.values_setProviders (entriesOf fields) (Sql.named "authData"))
  rw [hvalues] at hholds
  refine ⟨_, hset, ⟨entriesOf fields, hvalues, hunset⟩, fun c row stored hstored =>
    ⟨withProviders stored (entriesOf fields), eval_setProviders (c := c) hstored hholds, ?_⟩⟩
  obtain ⟨w, hw, hwget⟩ := exists_get?_withProviders hname stored
  rw [at?_key, hwget]
  exact hunset w hw

/-! ## All operations -/

/--
Where no other key of an update leads to the same place, an operation is done: on a column as a whole each of them, one
step inside an object's field increments and removals, further inside and in auth data removals. The column is set once,
to what the operation makes of what is stored, and what is bound for the column are the operation's values and nothing
at its place. A removal through the object of auth data has to go further than to a provider.
-/
theorem operations_performed (hnodup : (Fields.names changes).Nodup) (hu : update schema changes = .ok u)
    (hmem : (key, v) ∈ changes) (halone : Alone key changes) (hop : Operation.of? v = some operation) :
    (hasPoint key = false → key ≠ "authData" → authDataProvider? key = none →
      ∃ formula, u.SetsTo key formula ∧ operation.values? (isNative schema key) = some (u.valuesFor key) ∧
        ∀ (c : Comparison) (row : Row),
          formula.eval c row u.written.2 = operation.result? c row key (isNative schema key)) ∧
    (∀ f sub, cutKey? key = some (f, sub) → f ≠ "authData" → authDataProvider? f = none →
      f ++ ".__op" ∉ Fields.names changes ∧ f ++ ".__type" ∉ Fields.names changes → operation.IsNested sub →
      ∃ formula, u.SetsTo f formula ∧ (∀ d, .json d ∈ u.valuesFor f → at? (steps sub) d = none) ∧
        ∀ (c : Comparison) (row : Row) (stored : Document), (row.data f).fields? = some stored →
          (∀ e ∈ nestedOperations changes f "Increment", (sumAt? stored e.1 (amountOf e.2)).isSome) →
          ∃ new, formula.eval c row u.written.2 = some (.datum (.json (.object new))) ∧
            at? (steps sub) (.object new) = operation.resultAt? stored sub) ∧
    ∀ provider rest, operation = .delete → authPlace? key = some (provider :: rest) →
      (firstPiece key = "authData" → rest ≠ [] ∧ "_auth_data_" ++ provider ∉ topKeys changes) →
      ∃ formula, u.SetsTo "authData" formula ∧
        (∃ providers : List (String × Option Json),
          u.valuesFor "authData" = providers.flatMap (fun e => [.string e.1, Assignment.providerValue e.2]) ∧
          Unset provider (rest.map .key) providers) ∧
        ∀ (c : Comparison) (row : Row) (stored : Document), (row.data "authData").fields? = some stored →
          ∃ new, formula.eval c row u.written.2 = some (.datum (.json (.object new))) ∧
            at? (.key provider :: rest.map .key) (.object new) = none := by
  refine ⟨column_operation hnodup hu hmem halone hop,
    fun f sub hcut hauth hprovider hkeys hnested =>
      nested_operation hnodup hu hmem halone hop hcut hauth hprovider hkeys hnested, ?_⟩
  rintro provider rest rfl hplace hauth
  exact authData_removal hnodup hu hmem halone (Operation.of?_eq_delete_iff.mp hop) hplace hauth

def deletion : Json := .object [Json.tagged "__op" "Delete"]

def addition : Json := .object [Json.tagged "__op" "AddUnique", ("objects", .array [.string "x"])]

/-- Operations on a native list, inside an object and on an entry of auth data. -/
def operationChanges : Document :=
  [("tags", addition), ("meta.views", adding (.integer 1)), ("_auth_data_mail", deletion)]

theorem operations_performed_posts :
    ∃ u, update posts operationChanges = .ok u ∧
      (∃ formula, u.SetsTo "tags" formula ∧ u.valuesFor "tags" = [.strings ["x"]] ∧
        ∀ (c : Comparison) (row : Row), row.strings "tags" = some ["a"] →
          formula.eval c row u.written.2 = some (.strings ("a" :: c.distinct ["x"]))) ∧
      (∃ formula, u.SetsTo "meta" formula ∧ ∀ (c : Comparison) (row : Row), row.data "meta" = .null →
        ∃ new, formula.eval c row u.written.2 = some (.datum (.json (.object new))) ∧
          at? [.key "views"] (.object new) = some (.number (.float (.ofInt 1)))) ∧
      ∃ formula, u.SetsTo "authData" formula ∧
        ∀ (c : Comparison) (row : Row), row.data "authData" = .json (.object [("mail", .object [])]) →
          ∃ new, formula.eval c row u.written.2 = some (.datum (.json (.object new))) ∧
            at? [.key "mail"] (.object new) = none := by
  obtain ⟨u, hu⟩ : ∃ u, update posts operationChanges = .ok u := ⟨_, rfl⟩
  have hnodup : (Fields.names operationChanges).Nodup := by decide
  have htags : ("tags", addition) ∈ operationChanges := .head _
  have hviews : ("meta.views", adding (.integer 1)) ∈ operationChanges := .tail _ (.head _)
  have hmail : ("_auth_data_mail", deletion) ∈ operationChanges := .tail _ (.tail _ (.head _))
  obtain ⟨hcolumn, -, -⟩ := operations_performed hnodup hu htags (by decide) rfl
  have hincrement : Operation.of? (adding (.integer 1)) = some (.increment (amountOf (adding (.integer 1)))) := rfl
  obtain ⟨-, hinside, -⟩ := operations_performed hnodup hu hviews (by decide) hincrement
  obtain ⟨-, -, hremoved⟩ := operations_performed hnodup hu hmail (by decide) rfl
  refine ⟨u, hu, ?_, ?_, ?_⟩
  · obtain ⟨formula, hset, hvalues, heval⟩ := hcolumn rfl (by decide) (by decide)
    refine ⟨formula, hset, (Option.some.inj hvalues).symm, fun c row hrow => ?_⟩
    rw [heval, Operation.result?, hrow]
    rfl
  · obtain ⟨formula, hset, -, heval⟩ := hinside "meta" "views" rfl (by decide) (by decide) (by decide) rfl
    have hsums : ∀ e ∈ nestedOperations operationChanges "meta" "Increment",
        (sumAt? [] e.1 (amountOf e.2)).isSome := by
      decide +kernel
    have hsum : sumAt? [] "views" (amountOf (adding (.integer 1))) = some (.ofInt 1) := by decide +kernel
    have hresult : Operation.resultAt? [] "views" (.increment (amountOf (adding (.integer 1)))) =
        some (.number (.float (.ofInt 1))) := by
      rw [Operation.resultAt?, hsum]
      rfl
    refine ⟨formula, hset, fun c row hrow => ?_⟩
    obtain ⟨new, hnew, hplace⟩ := heval c row [] (by rw [hrow]; rfl) hsums
    exact ⟨new, hnew, hplace.trans hresult⟩
  · obtain ⟨formula, hset, -, heval⟩ := hremoved "mail" [] rfl rfl (fun h => absurd h (by decide))
    exact ⟨formula, hset, fun c row hrow => heval c row [("mail", .object [])] (by rw [hrow]; rfl)⟩

/-- A class of users with their auth data. -/
def people : Schema := ⟨"_User", [("authData", .ofType .object)], none, []⟩

/--
Elsewhere operations are not done. One on auth data as a whole is taken for a provider, a removal of a provider through
the object of auth data changes nothing, and one step inside a field a list's operation is written as it is.
-/
theorem operations_not_performed :
    (∃ u formula, update people [("authData", deletion)] = .ok u ∧ u.SetsTo "authData" formula ∧
      u.valuesFor "authData" = [.string "__op", .json (.string "Delete")]) ∧
    (∃ u, update people [("authData.mail", deletion)] = .ok u ∧
      u.SetsTo "authData" (.expression (.column "authData")) ∧ u.valuesFor "authData" = []) ∧
    ∃ u formula, update notes [("meta.tags", addition)] = .ok u ∧ u.SetsTo "meta" formula ∧
      u.valuesFor "meta" = [.json (.object [("tags", addition)])] := by
  have hwhole : update people [("authData", deletion)] =
      .ok ⟨[⟨"authData", .setProviders [("__op", some (.string "Delete"))]⟩]⟩ := rfl
  have hprovider : update people [("authData.mail", deletion)] = .ok ⟨[⟨"authData", .setProviders []⟩]⟩ := rfl
  have hlist : update notes [("meta.tags", addition)] =
      .ok ⟨[⟨"meta", .merge true [] [] [("tags", addition)]⟩]⟩ := rfl
  obtain ⟨_, formula, hset, -⟩ := Update.exists_setsTo_singleton hwhole fun n => ⟨_, rfl⟩
  obtain ⟨_, _, hset', hformula'⟩ := Update.exists_setsTo_singleton hprovider fun n => ⟨_, rfl⟩
  obtain ⟨_, formula'', hset'', -⟩ := Update.exists_setsTo_singleton hlist fun n => ⟨_, rfl⟩
  cases hformula'
  exact ⟨⟨_, formula, hwhole, hset, rfl⟩, ⟨_, hprovider, hset', rfl⟩, ⟨_, formula'', hlist, hset'', rfl⟩⟩

end Write

end Docstore
