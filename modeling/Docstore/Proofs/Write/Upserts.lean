import Docstore.Proofs.Write.Operations

/-!
# Documents of upserts

An upsert that finds no row inserts the literal constraints of its query, overlaid with its update. Operations leave
there what their assignments make of a column without a value, where they are given their operands and none of them
twice (`upsertDocument_agrees`); elsewhere they need not (`upsertDocument_differs`).
-/

namespace Docstore

theorem eraseDupsBy_of_pairwise {α : Type} {same : α → α → Bool} {items : List α}
    (h : items.Pairwise fun x y => same y x = false) : items.eraseDupsBy same = items := by
  induction items with
  | nil => rfl
  | cons item items ih =>
      obtain ⟨hitem, hitems⟩ := List.pairwise_cons.mp h
      rw [List.eraseDupsBy_cons, List.filter_eq_self.mpr (by simpa using hitem), ih hitems]

namespace Write

open Docstore.Sql (Datum)

/-! ## Values under keys -/

/-- The value that an update's value has for its key, if any. -/
def given? (v : Json) : Option Json :=
  match v.operation? with
  | none => some v
  | some "Increment" => v.get? "amount"
  | some "Add" => v.get? "objects"
  | some "AddUnique" => v.get? "objects"
  | some "Remove" => some (.array [])
  | some _ => none

/-- What an update's value leaves under its key, where something may stand already. -/
def resolved (v : Json) (before : Option Json) : Option Json :=
  if v.operation? = some "Delete" then none else (given? v).or before

section

variable {document changes query : Document} {key : String} {v : Json}

theorem resolveInto_eq (document : Document) (key : String) (v : Json) :
    resolveInto document key v =
      if v.operation? = some "Delete" then Fields.erase key document
      else match given? v with
        | some w => Fields.insert key w document
        | none => document := by
  unfold resolveInto given?
  split
  case h_1 h | h_2 h | h_3 h | h_4 h | h_5 h | h_6 h =>
    rw [h]
    rfl
  case h_7 => simp_all

theorem nodup_resolveInto (h : (Fields.names document).Nodup) : (Fields.names (resolveInto document key v)).Nodup := by
  rw [resolveInto_eq]
  split
  · exact Fields.nodup_erase h
  split
  · exact Fields.nodup_insert h
  · exact h

theorem get?_resolveInto (h : (Fields.names document).Nodup) (name : String) :
    Fields.get? name (resolveInto document key v) =
      if name = key then resolved v (Fields.get? key document) else Fields.get? name document := by
  rw [resolveInto_eq, resolved]
  by_cases hname : name = key
  · subst hname
    split
    next hdelete => simpa [hdelete] using Fields.get?_eq_none_iff.mpr (Fields.not_mem_names_erase h)
    next hdelete =>
      cases hgiven : given? v with
      | none => simp
      | some w => simp [Fields.get?_insert_self]
  · rw [if_neg hname]
    split
    · exact Fields.get?_erase_of_ne hname
    split
    · exact Fields.get?_insert_of_ne hname _ _
    · rfl

/-- What a query gives the document under a key: the value of a constraint that wants one. -/
def wanted? (query : Document) (key : String) : Option Json :=
  (Fields.get? key query).filter fun v => key.toList.head? ≠ some '$' && isLiteral v

theorem get?_foldl_resolveInto (hdocument : (Fields.names document).Nodup) (hchanges : (Fields.names changes).Nodup)
    (name : String) :
    Fields.get? name (changes.foldl (fun document e => resolveInto document e.1 e.2) document) =
      match Fields.get? name changes with
      | some v => resolved v (Fields.get? name document)
      | none => Fields.get? name document := by
  induction changes generalizing document with
  | nil => rfl
  | cons e changes ih =>
      obtain ⟨key, v⟩ := e
      obtain ⟨hkey, hchanges⟩ := List.nodup_cons.mp hchanges
      rw [List.foldl_cons, ih (nodup_resolveInto hdocument) hchanges, get?_resolveInto hdocument, Fields.get?]
      by_cases hname : name = key
      · subst hname
        simp [Fields.get?_eq_none_iff.mpr hkey]
      · simp [hname, Ne.symm hname]

theorem get?_upsertDocument (hquery : (Fields.names query).Nodup) (hchanges : (Fields.names changes).Nodup)
    (name : String) :
    Fields.get? name (upsertDocument query changes) =
      match Fields.get? name changes with
      | some v => resolved v (wanted? query name)
      | none => wanted? query name := by
  let wanted := query.filter fun e => e.1.toList.head? ≠ some '$' && isLiteral e.2
  have hnodup : (Fields.names wanted).Nodup := Fields.nodup_filter _ hquery
  have hwanted : Fields.get? name wanted = wanted? query name := Fields.get?_filter_of_nodup _ hquery name
  have hdocument : upsertDocument query changes =
      changes.foldl (fun document e => resolveInto document e.1 e.2) wanted := by
    rw [upsertDocument, Fields.ofPairs_of_nodup hnodup]
  rw [hdocument, get?_foldl_resolveInto hnodup hchanges, hwanted]

/-! ## Constraints and plain values -/

/-- Whether a constraint names no value: its key is an operator, or an object of operators stands under it. -/
def IsOperator (key : String) (v : Json) : Prop :=
  key.toList.head? = some '$' ∨
    v.typeTag? = none ∧ ∃ fields, v = .object fields ∧ ∃ name ∈ Fields.names fields, name.toList.head? = some '$'

theorem isOperator_iff :
    IsOperator key v ↔ (decide (key.toList.head? ≠ some '$') && isLiteral v) = false := by
  have hliteral : isLiteral v = false ↔ v.typeTag? = none ∧
      ∃ fields, v = .object fields ∧ ∃ name ∈ Fields.names fields, name.toList.head? = some '$' := by
    cases v with
    | object fields => simp [isLiteral, Fields.names]
    | _ => simp [isLiteral]
  rw [IsOperator, ← hliteral]
  simp only [Bool.and_eq_false_iff, decide_eq_false_iff_not, not_not, ne_eq]

theorem wanted?_of_mem (hquery : (Fields.names query).Nodup) (h : (key, v) ∈ query) :
    (IsOperator key v → wanted? query key = none) ∧ (¬ IsOperator key v → wanted? query key = some v) := by
  rw [wanted?, (Fields.get?_eq_some_iff hquery key v).mpr h, isOperator_iff, Bool.not_eq_false, Option.filter]
  exact ⟨fun hkey => by rw [hkey]; rfl, fun hkey => by rw [hkey]; rfl⟩

/-- A document that a query and an update make: -/
structure Overlays (query changes document : Document) : Prop where
  /-- operators come into it with the update's values only, -/
  operators : ∀ {key v}, (key, v) ∈ query → IsOperator key v → ∀ {w}, Fields.get? key document = some w →
    ∃ v', (key, v') ∈ changes ∧ resolved v' none = some w
  /-- the values that the query wants are kept where the update has no others, -/
  literals : ∀ {key v}, (key, v) ∈ query → ¬ IsOperator key v → key ∉ Fields.names changes →
    Fields.get? key document = some v
  /-- and so are the update's plain values. -/
  plain : ∀ {key v}, (key, v) ∈ changes → v.operation? = none → Fields.get? key document = some v

theorem upsertDocument_overlays (hquery : (Fields.names query).Nodup) (hchanges : (Fields.names changes).Nodup) :
    Overlays query changes (upsertDocument query changes) where
  operators {key v} hmem hoperator w hw := by
    rw [get?_upsertDocument hquery hchanges, (wanted?_of_mem hquery hmem).1 hoperator] at hw
    split at hw
    next v' hget => exact ⟨v', Fields.mem_of_get?_eq_some hget, hw⟩
    next => cases hw
  literals {key v} hmem hliteral hkey := by
    rw [get?_upsertDocument hquery hchanges, Fields.get?_eq_none_iff.mpr hkey]
    exact (wanted?_of_mem hquery hmem).2 hliteral
  plain {key v} hmem hplain := by
    rw [get?_upsertDocument hquery hchanges, (Fields.get?_eq_some_iff hchanges key v).mpr hmem]
    simp [resolved, given?, hplain]

end

/-! ## Operations on nothing -/

/-- How a value of a document, or none, stands in a column. -/
inductive Stands : Option Json → Datum → Prop
  | null : Stands none .null
  | number {v : Json} {x y : Double} (hv : v.double? = some x) (h : Double.eq x y = true) : Stands (some v) (.number y)
  | json (v : Json) : Stands (some v) (.json v)

namespace Operation

/-- An operation that is given what it needs, and nothing twice that it adds once. -/
def IsGiven (c : Comparison) (v : Json) : Operation → Prop
  | increment amount => (v.get? "amount").bind Json.double? = some amount ∧ amount.isFinite = true
  | change .add _ => ∃ items, v.get? "objects" = some (.array items)
  | change .addUnique _ => ∃ items, v.get? "objects" = some (.array items) ∧
      items.Pairwise fun x y => c.same y x = false
  | change .remove objects => ∃ items, objects = .array items
  | delete => True

variable {c : Comparison} {row : Row} {column : String} {v : Json} {operation : Operation}

/-- Of a column without a value an operation makes what it leaves in a document. -/
theorem stands_result? (hop : of? v = some operation) (hgiven : operation.IsGiven c v) (hrow : row.data column = .null)
    (before : Option Json) :
    ∃ d, operation.result? c row column false = some (.datum d) ∧ Stands (resolved v before) d := by
  unfold of? at hop
  split at hop
  next hname =>
    cases hop
    obtain ⟨hamount, hfinite⟩ := hgiven
    obtain ⟨sum, hsum, heq⟩ := Double.sum?_zero hfinite
    obtain ⟨w, hw, hdouble⟩ := Option.bind_eq_some_iff.mp hamount
    refine ⟨.number sum, ?_, ?_⟩
    · rw [result?, hrow, sumOf?, hsum]
      rfl
    · have hresolved : resolved v before = some w := by simp [resolved, given?, hname, hw]
      rw [hresolved]
      exact .number hdouble heq
  next hname =>
    cases hop
    obtain ⟨items, hitems⟩ := hgiven
    have hresolved : resolved v before = some (.array items) := by simp [resolved, given?, hname, hitems]
    refine ⟨.json (.array items), ?_, hresolved ▸ .json _⟩
    simp [result?, hrow, hitems, listOf?, ListOperation.apply]
  next hname =>
    cases hop
    obtain ⟨items, hitems, hdistinct⟩ := hgiven
    have hresolved : resolved v before = some (.array items) := by simp [resolved, given?, hname, hitems]
    refine ⟨.json (.array items), ?_, hresolved ▸ .json _⟩
    simp [result?, hrow, hitems, listOf?, ListOperation.apply, eraseDupsBy_of_pairwise hdistinct]
  next hname =>
    cases hop
    obtain ⟨items, hitems⟩ := hgiven
    have hresolved : resolved v before = some (.array []) := by simp [resolved, given?, hname]
    refine ⟨.json (.array []), ?_, hresolved ▸ .json _⟩
    simp [result?, hrow, hitems, listOf?, ListOperation.apply]
  next hname =>
    cases hop
    have hresolved : resolved v before = none := by simp [resolved, hname]
    exact ⟨.null, rfl, hresolved ▸ .null⟩
  next => cases hop

end Operation

/-! ## Operations alone -/

section

variable {schema : Schema} {query changes : Document} {key : String} {v : Json} {operation : Operation}

/-- An operation on a column that keeps no native list can be compiled. -/
theorem exists_actionOf (hop : Operation.of? v = some operation) (hauth : key ≠ "authData")
    (hnative : isNative schema key = false) : ∃ action, actionOf schema changes key v = .ok (some action) := by
  have hnull : v.isNull = false := by
    cases v <;> first | rfl | cases hop
  have hlist (op : ListOperation) : ∃ action, listAction (schema.fieldType? key) key op v = .ok action := by
    rw [isNative] at hnative
    simp [listAction, hnative]
  unfold actionOf
  rw [hnull, if_neg Bool.false_ne_true, if_neg hauth]
  unfold Operation.of? at hop
  split at hop
  case h_1 hname | h_5 hname =>
    rw [hname]
    exact ⟨_, rfl⟩
  case h_2 hname | h_3 hname | h_4 hname =>
    rw [hname]
    obtain ⟨action, haction⟩ := hlist _
    exact ⟨action, congrArg (Except.map some) haction⟩
  case h_6 => cases hop

theorem exists_update_singleton (hop : Operation.of? v = some operation) (hpoint : hasPoint key = false)
    (hauth : key ≠ "authData") (hprovider : authDataProvider? key = none) (hnative : isNative schema key = false) :
    ∃ u, update schema [(key, v)] = .ok u := by
  obtain ⟨action, haction⟩ : ∃ action, actionOf schema [(key, v)] key v = .ok (some action) :=
    exists_actionOf hop hauth hnative
  have hdots : expandDots [(key, v)] = [(key, v)] := expandDots_eq_self (by simpa using hpoint)
  rw [update, hdots, foldAuthDataFirst_eq_self hprovider, assignmentsOf, haction]
  exact ⟨_, rfl⟩

theorem exists_operation_singleton (hop : Operation.of? v = some operation) (hpoint : hasPoint key = false)
    (hauth : key ≠ "authData") (hprovider : authDataProvider? key = none) (hnative : isNative schema key = false) :
    ∃ u formula, update schema [(key, v)] = .ok u ∧ u.SetsTo key formula ∧
      ∀ (c : Comparison) (row : Row), formula.eval c row u.written.2 = operation.result? c row key false := by
  obtain ⟨u, hu⟩ := exists_update_singleton hop hpoint hauth hprovider hnative
  have hnodup : (Fields.names [(key, v)]).Nodup := List.nodup_singleton key
  have halone : Alone key [(key, v)] := fun name hname hne => absurd (List.mem_singleton.mp hname) hne
  obtain ⟨formula, hset, -, heval⟩ := column_operation hnodup hu (.head _) halone hop hpoint hauth hprovider
  exact ⟨u, formula, hu, hset, fun c row => hnative ▸ heval c row⟩

/--
The document of an upsert holds the values that its query wants, overlaid with those of its update. For an operation on
a column as a whole, given its operands and none of them twice, it holds what the operation's assignment makes of a
column without a value.
-/
theorem upsertDocument_agrees (hquery : (Fields.names query).Nodup) (hchanges : (Fields.names changes).Nodup) :
    Overlays query changes (upsertDocument query changes) ∧
    ∀ {schema key v operation}, (key, v) ∈ changes → Operation.of? v = some operation → hasPoint key = false →
      key ≠ "authData" → authDataProvider? key = none → isNative schema key = false →
      (∃ u, update schema [(key, v)] = .ok u) ∧
      ∀ {others u}, (Fields.names others).Nodup → (key, v) ∈ others → Alone key others → update schema others = .ok u →
        ∃ formula, u.SetsTo key formula ∧
          ∀ (c : Comparison) (row : Row), operation.IsGiven c v → row.data key = .null →
            ∃ d, formula.eval c row u.written.2 = some (.datum d) ∧
              Stands (Fields.get? key (upsertDocument query changes)) d := by
  refine ⟨upsertDocument_overlays hquery hchanges, ?_⟩
  intro schema key v operation hmem hop hpoint hauth hprovider hnative
  refine ⟨exists_update_singleton hop hpoint hauth hprovider hnative, ?_⟩
  intro others u hnodup hmem' halone hu
  obtain ⟨formula, hset, -, heval⟩ := column_operation hnodup hu hmem' halone hop hpoint hauth hprovider
  have hvalue : Fields.get? key (upsertDocument query changes) = resolved v (wanted? query key) := by
    rw [get?_upsertDocument hquery hchanges, (Fields.get?_eq_some_iff hchanges key v).mpr hmem]
  refine ⟨formula, hset, fun c row hgiven hrow => ?_⟩
  rw [heval, hnative, hvalue]
  exact Operation.stands_result? hop hgiven hrow _

end

def appending (objects : List Json) : Json :=
  .object [Json.tagged "__op" "AddUnique", ("objects", .array objects)]

/-- A query with operators, and an update that counts and lists. -/
def scoreQuery : Document :=
  [("objectId", .string "g1"), ("score", .object [("$gt", .int 3)]), ("$or", .array [])]

def scoreChanges : Document :=
  [("score", adding (.integer 2)), ("items", appending [.string "a", .string "b"]), ("title", .string "x")]

theorem upsertDocument_agrees_games :
    let document := upsertDocument scoreQuery scoreChanges
    Overlays scoreQuery scoreChanges document ∧ Fields.get? "objectId" document = some (.string "g1") ∧
      ∃ u, update games scoreChanges = .ok u ∧
        (∃ formula, u.SetsTo "score" formula ∧ ∀ (c : Comparison) (row : Row), row.data "score" = .null →
          ∃ d, formula.eval c row u.written.2 = some (.datum d) ∧ Stands (Fields.get? "score" document) d) ∧
        ∃ formula, u.SetsTo "items" formula ∧ ∀ (c : Comparison) (row : Row),
          c.same (.string "b") (.string "a") = false → row.data "items" = .null →
          ∃ d, formula.eval c row u.written.2 = some (.datum d) ∧ Stands (Fields.get? "items" document) d := by
  have hquery : (Fields.names scoreQuery).Nodup := by decide
  have hchanges : (Fields.names scoreChanges).Nodup := by decide
  obtain ⟨u, hu⟩ : ∃ u, update games scoreChanges = .ok u := ⟨_, rfl⟩
  have hscore : ("score", adding (.integer 2)) ∈ scoreChanges := .head _
  have hitems : ("items", appending [.string "a", .string "b"]) ∈ scoreChanges := .tail _ (.head _)
  have hincrement : Operation.of? (adding (.integer 2)) = some (.increment (amountOf (adding (.integer 2)))) := rfl
  obtain ⟨hoverlays, hoperations⟩ := upsertDocument_agrees hquery hchanges
  obtain ⟨-, hcounted⟩ := hoperations hscore hincrement rfl (by decide) (by decide) (rfl : isNative games "score" = _)
  obtain ⟨-, hlisted⟩ := hoperations hitems rfl rfl (by decide) (by decide) (rfl : isNative games "items" = _)
  obtain ⟨formula, hset, heval⟩ := hcounted hchanges hscore (by decide) hu
  obtain ⟨formula', hset', heval'⟩ := hlisted hchanges hitems (by decide) hu
  refine ⟨hoverlays, hoverlays.literals (.head _) (by simp [IsOperator]) (by decide), u, hu, ⟨formula, hset, ?_⟩,
    formula', hset', ?_⟩
  · exact fun c row hrow => heval c row ⟨rfl, by decide +kernel⟩ hrow
  · exact fun c row hsame hrow => heval' c row ⟨_, rfl, by simpa using hsame⟩ hrow

/-- An operation without its operand. -/
def bare (operation : String) : Json := .object [Json.tagged "__op" operation]

/-- An item that is to be added once is inserted as often as it is named, and operations without operands leave nothing. -/
theorem upsertDocument_differs :
    (∃ u formula, update games [("items", appending [.string "a", .string "a"])] = .ok u ∧ u.SetsTo "items" formula ∧
      Fields.get? "items" (upsertDocument [] [("items", appending [.string "a", .string "a"])]) =
        some (.array [.string "a", .string "a"]) ∧
      ∀ (c : Comparison) (row : Row), c.same (.string "a") (.string "a") = true → row.data "items" = .null →
        formula.eval c row u.written.2 = some (.datum (.json (.array [.string "a"])))) ∧
    (∃ u formula, update games [("score", bare "Increment")] = .ok u ∧ u.SetsTo "score" formula ∧
      Fields.get? "score" (upsertDocument [] [("score", bare "Increment")]) = none ∧
      ∀ (c : Comparison) (row : Row), row.data "score" = .null →
        formula.eval c row u.written.2 = some (.datum (.number 0))) ∧
    ∃ u formula, update games [("items", bare "Add")] = .ok u ∧ u.SetsTo "items" formula ∧
      Fields.get? "items" (upsertDocument [] [("items", bare "Add")]) = none ∧
      ∀ (c : Comparison) (row : Row), row.data "items" = .null →
        formula.eval c row u.written.2 = some (.datum (.json (.array []))) := by
  have hrepeated : Operation.of? (appending [.string "a", .string "a"]) =
      some (.change .addUnique (.array [.string "a", .string "a"])) := rfl
  have hamount : Operation.of? (bare "Increment") = some (.increment 0) := rfl
  have hobjects : Operation.of? (bare "Add") = some (.change .add (.array [])) := rfl
  have hitems : isNative games "items" = false := rfl
  have hscore : isNative games "score" = false := rfl
  obtain ⟨u₁, f₁, hu₁, hset₁, heval₁⟩ := exists_operation_singleton hrepeated rfl (by decide) (by decide) hitems
  obtain ⟨u₂, f₂, hu₂, hset₂, heval₂⟩ := exists_operation_singleton hamount rfl (by decide) (by decide) hscore
  obtain ⟨u₃, f₃, hu₃, hset₃, heval₃⟩ := exists_operation_singleton hobjects rfl (by decide) (by decide) hitems
  refine ⟨⟨u₁, f₁, hu₁, hset₁, rfl, fun c row hsame hrow => ?_⟩, ⟨u₂, f₂, hu₂, hset₂, rfl, fun c row hrow => ?_⟩,
    u₃, f₃, hu₃, hset₃, rfl, fun c row hrow => ?_⟩
  · simp [heval₁, Operation.result?, hrow, listOf?, ListOperation.apply, List.eraseDupsBy_cons, hsame]
  · rw [heval₂, Operation.result?, hrow]
    rfl
  · rw [heval₃, Operation.result?, hrow]
    rfl

end Write

end Docstore
