import Docstore.Proofs.Engine.Conversation
import Docstore.Store.Startup

/-!
# Contexts

What an error tells once contexts were added to it, one after another. Main statement: its message has every layer, and
its code, the kinds that have a number, the fault of the engine and the field of a duplicate value are found through
all of them; only the other kinds are those of the context added last (`contexts_keep_findings`). So what is caught of
the failure of an operation does not depend on the contexts before it (`recover_missing_within`).
-/

namespace Docstore

/-! ## The outermost layer that carries something -/

/-- Of the layers that carry something, the one that was added last. -/
def IsOutermost (carries : Cause → Prop) (layers : List Cause) (c : Cause) : Prop :=
  ∃ added rest, layers = added ++ c :: rest ∧ carries c ∧ ∀ d ∈ added, ¬carries d

/-- Something is read off just those layers that carry it. -/
def Detects {β : Type} (f : Cause → Option β) (carries : Cause → Prop) : Prop := ∀ c, (f c).isSome = true ↔ carries c

namespace Detects

variable {β : Type} {f : Cause → Option β} {carries : Cause → Prop} {layers : List Cause}

theorem eq_none_iff (hf : Detects f carries) {c : Cause} : f c = none ↔ ¬carries c := by
  rw [← hf c, Option.not_isSome_iff_eq_none]

/-- A search from the outside stops at the outermost layer of those that carry something. -/
theorem findSome?_eq_some_iff (hf : Detects f carries) {b : β} :
    layers.findSome? f = some b ↔ ∃ c, IsOutermost carries layers c ∧ f c = some b := by
  rw [List.findSome?_eq_some_iff]
  constructor
  · rintro ⟨added, c, rest, hlayers, hb, hnone⟩
    have hc : carries c := (hf c).mp (Option.isSome_of_eq_some hb)
    exact ⟨c, ⟨added, rest, hlayers, hc, fun d hd => hf.eq_none_iff.mp (hnone d hd)⟩, hb⟩
  · rintro ⟨c, ⟨added, rest, hlayers, -, hfree⟩, hb⟩
    exact ⟨added, c, rest, hlayers, hb, fun d hd => hf.eq_none_iff.mpr (hfree d hd)⟩

theorem findSome?_eq_none_iff (hf : Detects f carries) :
    layers.findSome? f = none ↔ ∀ c ∈ layers, ¬carries c := by
  rw [List.findSome?_eq_none_iff]
  exact forall₂_congr fun _ _ => hf.eq_none_iff

/-- Contexts that carry nothing are passed over. -/
theorem findSome?_behind (hf : Detects f carries) {added : List Cause} (h : ∀ c ∈ added, ¬carries c) :
    (added ++ layers).findSome? f = layers.findSome? f := by
  rw [List.findSome?_append, hf.findSome?_eq_none_iff.mpr h, Option.none_or]

end Detects

/-! ## What a layer carries -/

/-- The kinds that have a number in the document API. -/
def Kind.numbered : List Kind :=
  [.duplicateValue, .invalidQuery, .invalidNestedKey, .operationForbidden, .objectNotFound, .invalidJson,
    .internalServerError]

theorem Kind.isSome_code? {k : Kind} : k.code?.isSome = true ↔ k ∈ Kind.numbered := by
  cases k <;> decide

theorem Kind.isOutermost_eq_false {k : Kind} : k.isOutermost = false ↔ k ∈ Kind.numbered := by
  cases k <;> decide

namespace Cause

def IsNumbered (c : Cause) : Prop := ∃ k ∈ Kind.numbered, c.kind? = some k

def IsDriver (c : Cause) : Prop := ∃ fault, c = .driver fault

/-- A duplicate value of a field that is known. -/
def NamesField (c : Cause) : Prop := ∃ message field, c = .duplicateValue message (some field)

def code? (c : Cause) : Option Nat := c.kind?.bind Kind.code?

def fault? : Cause → Option EngineFault
  | driver fault => some fault
  | _ => none

def field? : Cause → Option String
  | duplicateValue _ field => field
  | _ => none

theorem detects_code? : Detects code? IsNumbered := by
  intro c
  rw [code?, Option.isSome_bind, IsNumbered]
  cases c.kind? with
  | none => simp
  | some k => simp [Kind.isSome_code?]

theorem fault?_eq_some_iff {c : Cause} {fault : EngineFault} : c.fault? = some fault ↔ c = .driver fault := by
  cases c <;> simp [fault?]

theorem field?_eq_some_iff {c : Cause} {field : String} :
    c.field? = some field ↔ ∃ message, c = .duplicateValue message (some field) := by
  cases c <;> simp [field?]

theorem detects_fault? : Detects fault? IsDriver := by
  intro c
  rw [Option.isSome_iff_exists]
  exact exists_congr fun _ => fault?_eq_some_iff

theorem detects_field? : Detects field? NamesField := by
  intro c
  rw [Option.isSome_iff_exists, NamesField, exists_comm]
  exact exists_congr fun _ => field?_eq_some_iff

end Cause

namespace Error

variable {e root : Error} {added layers : List Cause}

/-! ## What an error tells -/

theorem code_eq (e : Error) : e.code = (e.layers.findSome? Cause.code?).getD 1 := rfl

theorem engineFault?_eq (e : Error) : e.engineFault? = e.layers.findSome? Cause.fault? := rfl

theorem duplicatedField?_eq (e : Error) : e.duplicatedField? = e.layers.findSome? Cause.field? := rfl

/-- An error of some layers, by what is told of it. -/
structure Tells (e : Error) (layers : List Cause) : Prop where
  message : e.message = ": ".intercalate (layers.map Cause.message)
  /-- The code is that of the outermost layer whose kind has a number, if there is one. -/
  code : ∀ n, e.code = n ↔
    (∃ c k, IsOutermost Cause.IsNumbered layers c ∧ c.kind? = some k ∧ k.code? = some n) ∨
      (∀ c ∈ layers, ¬c.IsNumbered) ∧ n = 1
  numbered : ∀ k ∈ Kind.numbered, (e.is k = true ↔ ∃ c ∈ layers, c.kind? = some k)
  /-- The kinds without a number are those of the first layer alone. -/
  unnumbered : ∀ k ∉ Kind.numbered, (e.is k = true ↔ ∃ c, layers.head? = some c ∧ c.kind? = some k)
  fault : ∀ fault, e.engineFault? = some fault ↔ IsOutermost Cause.IsDriver layers (.driver fault)
  field : ∀ field, e.duplicatedField? = some field ↔
    ∃ message, IsOutermost Cause.NamesField layers (.duplicateValue message (some field))
  /-- States are those of the outermost fault, and of no fault behind it. -/
  state : ∀ s, e.hasState s = true ↔
    ∃ report, IsOutermost Cause.IsDriver layers (.driver (.server report)) ∧ report.sqlstate = s.code

theorem code_eq_iff {n : Nat} : e.code = n ↔
    (∃ c k, IsOutermost Cause.IsNumbered e.layers c ∧ c.kind? = some k ∧ k.code? = some n) ∨
      (∀ c ∈ e.layers, ¬c.IsNumbered) ∧ n = 1 := by
  have hfound : e.layers.findSome? Cause.code? = some n ↔
      ∃ c k, IsOutermost Cause.IsNumbered e.layers c ∧ c.kind? = some k ∧ k.code? = some n := by
    rw [Cause.detects_code?.findSome?_eq_some_iff]
    simp only [Cause.code?, Option.bind_eq_some_iff, exists_and_left]
  rw [code_eq, ← hfound, ← Cause.detects_code?.findSome?_eq_none_iff]
  cases e.layers.findSome? Cause.code? <;> simp [eq_comm]

theorem is_numbered_iff {k : Kind} (hk : k ∈ Kind.numbered) : e.is k = true ↔ ∃ c ∈ e.layers, c.kind? = some k := by
  rw [Error.is, if_neg (by simp [Kind.isOutermost_eq_false.mpr hk]), List.any_eq_true]
  simp only [beq_iff_eq]

theorem is_unnumbered_iff {k : Kind} (hk : k ∉ Kind.numbered) : e.is k = true ↔ e.outer.kind? = some k := by
  rw [Error.is, if_pos (by simpa [← Kind.isOutermost_eq_false] using hk), beq_iff_eq]

theorem engineFault?_eq_some_iff {fault : EngineFault} :
    e.engineFault? = some fault ↔ IsOutermost Cause.IsDriver e.layers (.driver fault) := by
  rw [engineFault?_eq, Cause.detects_fault?.findSome?_eq_some_iff]
  simp only [Cause.fault?_eq_some_iff, exists_eq_right]

theorem duplicatedField?_eq_some_iff {field : String} : e.duplicatedField? = some field ↔
    ∃ message, IsOutermost Cause.NamesField e.layers (.duplicateValue message (some field)) := by
  rw [duplicatedField?_eq, Cause.detects_field?.findSome?_eq_some_iff]
  simp only [Cause.field?_eq_some_iff]
  constructor
  · rintro ⟨_, houtermost, message, rfl⟩
    exact ⟨message, houtermost⟩
  · rintro ⟨message, houtermost⟩
    exact ⟨_, houtermost, message, rfl⟩

theorem serverError?_eq_some_iff {report : ServerError} :
    e.serverError? = some report ↔ e.engineFault? = some (.server report) := by
  rw [serverError?]
  rcases e.engineFault? with _ | _ | _ <;> simp

theorem hasState_iff {s : SqlState} : e.hasState s = true ↔
    ∃ report, IsOutermost Cause.IsDriver e.layers (.driver (.server report)) ∧ report.sqlstate = s.code := by
  simp only [hasState, Option.any_eq_true, serverError?_eq_some_iff, engineFault?_eq_some_iff, beq_iff_eq]

theorem tells_layers (e : Error) : e.Tells e.layers where
  message := rfl
  code _ := code_eq_iff
  numbered _ hk := is_numbered_iff hk
  unnumbered k hk := by
    rw [is_unnumbered_iff hk]
    simp [layers]
  fault _ := engineFault?_eq_some_iff
  field _ := duplicatedField?_eq_some_iff
  state _ := hasState_iff

/-! ## What is still told behind contexts -/

/-- All that is caught of errors of the server is caught of one just as of the other. -/
structure RecoversAs (e e' : Error) : Prop where
  state : ∀ s, e.hasState s = e'.hasState s
  missing : e.isMissing = e'.isMissing
  existingIndex : ∀ name, e.isExistingIndex name = e'.isExistingIndex name
  duplicate : e'.hasState .uniqueViolation = true → e.asDuplicate = e'.asDuplicate

theorem recoversAs_of_engineFault? {e e' : Error} (h : e.engineFault? = e'.engineFault?) : e.RecoversAs e' := by
  have hreport : e.serverError? = e'.serverError? := by
    rw [serverError?, serverError?, h]
  have hstate : ∀ s, e.hasState s = e'.hasState s := fun s => by rw [hasState, hasState, hreport]
  have hconstraint : e.constraint? = e'.constraint? := by rw [constraint?, constraint?, hreport]
  constructor
  case state => exact hstate
  case missing => rw [isMissing, isMissing, hstate, hstate]
  case existingIndex =>
    intro name
    simp only [isExistingIndex, hstate, hconstraint]
  case duplicate =>
    intro hduplicate
    rw [asDuplicate, asDuplicate, hstate, if_pos hduplicate, if_pos hduplicate, hconstraint]

/-- What was told of an error is told of another one that has it behind contexts, if they tell nothing of the same. -/
structure StandsBehind (root : Error) (added : List Cause) (e : Error) : Prop where
  /-- A kind that has a number is kept whatever the contexts are. -/
  numbered : ∀ k ∈ Kind.numbered, root.is k = true → e.is k = true
  code : (∀ c ∈ added, ¬c.IsNumbered) → e.code = root.code
  field : (∀ c ∈ added, ¬c.NamesField) → e.duplicatedField? = root.duplicatedField?
  fault : (∀ c ∈ added, ¬c.IsDriver) → e.engineFault? = root.engineFault?
  recovery : (∀ c ∈ added, ¬c.IsDriver) → e.RecoversAs root

theorem standsBehind_of_layers (h : e.layers = added ++ root.layers) : root.StandsBehind added e := by
  have hfault : (∀ c ∈ added, ¬c.IsDriver) → e.engineFault? = root.engineFault? := by
    intro hfree
    rw [engineFault?_eq, h, Cause.detects_fault?.findSome?_behind hfree, engineFault?_eq]
  constructor
  case numbered =>
    intro k hk hroot
    obtain ⟨c, hc, hkind⟩ := (is_numbered_iff hk).mp hroot
    exact (is_numbered_iff hk).mpr ⟨c, h ▸ List.mem_append_right added hc, hkind⟩
  case code =>
    intro hfree
    rw [code_eq, h, Cause.detects_code?.findSome?_behind hfree, code_eq]
  case field =>
    intro hfree
    rw [duplicatedField?_eq, h, Cause.detects_field?.findSome?_behind hfree, duplicatedField?_eq]
  case fault => exact hfault
  case recovery => exact fun hfree => recoversAs_of_engineFault? (hfault hfree)

/-! ## Adding contexts -/

/-- Adds errors as contexts, one after another. -/
def contexts? (root : Error) (added : List Error) : Option Error := added.foldlM context? root

theorem context?_eq_some_iff {context : Error} :
    root.context? context = some e ↔ context.causes = [] ∧ e = root.within context.outer := by
  rw [context?]
  cases context.causes <;> simp [eq_comm]

theorem layers_within (e : Error) (c : Cause) : (e.within c).layers = c :: e.layers := rfl

theorem message_within (e : Error) (c : Cause) : (e.within c).message = c.message ++ ": " ++ e.message :=
  String.intercalate_cons_of_ne_nil (List.cons_ne_nil e.outer.message (e.causes.map Cause.message))

theorem layers_injective {e e' : Error} (h : e.layers = e'.layers) : e = e' := by
  cases e
  cases e'
  simpa [layers] using h

/-- Errors are added as contexts just if none stands on a cause of its own; the last of them is then the outermost. -/
theorem contexts?_eq_some_iff {added : List Error} : root.contexts? added = some e ↔
    (∀ context ∈ added, context.causes = []) ∧ e.layers = (added.map outer).reverse ++ root.layers := by
  -- What the first context makes of the root is the root of the contexts that follow.
  induction added generalizing root with
  | nil =>
      rw [contexts?, List.foldlM_nil]
      constructor
      · rintro ⟨⟩
        exact ⟨nofun, rfl⟩
      · rintro ⟨-, hlayers⟩
        exact congrArg some (layers_injective hlayers).symm
  | cons context added ih =>
      have hstep : root.contexts? (context :: added) = some e ↔
          context.causes = [] ∧ (root.within context.outer).contexts? added = some e := by
        rw [contexts?, List.foldlM_cons, Option.bind_eq_bind, Option.bind_eq_some_iff]
        simp only [context?_eq_some_iff]
        constructor
        · rintro ⟨_, ⟨hfree, rfl⟩, hrest⟩
          exact ⟨hfree, hrest⟩
        · rintro ⟨hfree, hrest⟩
          exact ⟨_, ⟨hfree, rfl⟩, hrest⟩
      rw [hstep, ih, layers_within, List.forall_mem_cons, List.map_cons, List.reverse_cons, List.append_assoc,
        List.singleton_append, and_assoc]

theorem exists_layers (h : layers ≠ []) : ∃ e : Error, e.layers = layers := by
  obtain ⟨c, rest, rfl⟩ := List.exists_cons_of_ne_nil h
  exact ⟨⟨c, rest⟩, rfl⟩

/--
Errors that stand on no causes can be added as contexts to any error. What comes of it tells of all layers, the context
added last first, and what the first error told is still told where the contexts tell nothing of the same.
-/
theorem contexts_keep_findings (root : Error) (added : List Error)
    (hfree : ∀ context ∈ added, context.causes = []) :
    ∃ e, root.contexts? added = some e ∧ e.Tells ((added.map outer).reverse ++ root.layers) ∧
      root.StandsBehind (added.map outer).reverse e := by
  obtain ⟨e, hlayers⟩ : ∃ e : Error, e.layers = (added.map outer).reverse ++ root.layers :=
    exists_layers (List.append_ne_nil_of_right_ne_nil _ (List.cons_ne_nil root.outer root.causes))
  have htells : e.Tells ((added.map outer).reverse ++ root.layers) := hlayers ▸ tells_layers e
  exact ⟨e, contexts?_eq_some_iff.mpr ⟨hfree, hlayers⟩, htells, standsBehind_of_layers hlayers⟩

/-- A missing table is still found behind a bad query and what could not be done for it. -/
theorem contexts_keep_findings_missingTable :
    (∀ context ∈ [ofCause (.invalidQuery "bad query"), ofCause (.text "find failed")], context.causes = []) ∧
      ∃ e, (ofCause (.driver (.server ⟨"42P01", "no table", none⟩))).contexts?
          [ofCause (.invalidQuery "bad query"), ofCause (.text "find failed")] = some e ∧
        e.message = "find failed: bad query: db error: ERROR: no table" ∧ e.code = 102 ∧
        e.is .invalidQuery = true ∧ e.is .driver = false ∧ e.isMissing = true := by
  have hfree : ∀ context ∈ [ofCause (.invalidQuery "bad query"), ofCause (.text "find failed")],
      context.causes = [] := by simp [ofCause]
  obtain ⟨e, he, htells, hbehind⟩ :=
    contexts_keep_findings (ofCause (.driver (.server ⟨"42P01", "no table", none⟩))) _ hfree
  refine ⟨hfree, e, he, htells.message.trans (by decide), ?_, ?_, ?_, ?_⟩
  -- The text carries no number and the fault is behind the query, so the code is the query's.
  · have hnumbered : IsOutermost Cause.IsNumbered
        [.text "find failed", .invalidQuery "bad query", .driver (.server ⟨"42P01", "no table", none⟩)]
        (.invalidQuery "bad query") :=
      ⟨[.text "find failed"], _, rfl, ⟨.invalidQuery, by decide, rfl⟩, by simp [Cause.IsNumbered, Cause.kind?]⟩
    exact (htells.code 102).mpr (.inl ⟨_, _, hnumbered, rfl, rfl⟩)
  · exact (htells.numbered .invalidQuery (by decide)).mpr ⟨.invalidQuery "bad query", by simp [ofCause], rfl⟩
  · rw [← Bool.not_eq_true, htells.unnumbered .driver (by decide)]
    rintro ⟨_, ⟨⟩, hkind⟩
    cases hkind
  · rw [(hbehind.recovery (by simp [ofCause, Cause.IsDriver])).missing]
    decide

end Error

/-! ## Contexts of operations -/

section Operations

open Engine (Exchange Operation Program)
open Store (notInstalled)

variable {α : Type}

theorem Engine.Operation.recover_mapError {accepts : Error → Bool} {f : Error → Error}
    (h : ∀ e, accepts (f e) = accepts e) (value : α) (op : Operation α) :
    Operation.recover accepts value (Operation.mapError f op) =
      Operation.mapError f (Operation.recover accepts value op) := by
  show ((op.run.bind _).bind _ : Program (Result α)) = (op.run.bind _).bind _
  rw [Program.bind_assoc, Program.bind_assoc]
  congr 1
  funext r
  rcases r with (e | _) | a
  · show Program.done (if accepts (f e) then _ else _) = _
    rw [h e]
    cases haccepts : accepts e <;> simp [Program.bind, haccepts]
  · rfl
  · rfl

/-- What is missing for a read is made up for, whether or not a context stands before the failure. -/
theorem recover_missing_within {c : Cause} (hc : ¬c.IsDriver) (value : α) (op : Operation α) :
    Operation.recover Error.isMissing value (Operation.mapError (·.within c) op) =
      Operation.mapError (·.within c) (Operation.recover Error.isMissing value op) := by
  refine Operation.recover_mapError (fun e => ?_) value op
  have hbehind : e.StandsBehind [c] (e.within c) := Error.standsBehind_of_layers rfl
  exact (hbehind.recovery (by simpa using hc)).missing

/-- The function that could not be installed is told before the failure, and hides nothing of it. -/
theorem install_fails {f : Sql.HelperFunction} {es : List Exchange} {e : Error}
    (h : (Operation.mapError (·.within (notInstalled f)) (Operation.send .pooled (.install f))).run.Converses es
      (.error (.error e))) :
    ∃ fault, es = [⟨.send .pooled (.install f), .error fault⟩] ∧
      e.message = (notInstalled f).message ++ ": " ++ (Cause.driver fault).message ∧
      e.engineFault? = some fault ∧ e.RecoversAs (.ofCause (.driver fault)) := by
  obtain ⟨r, xs, ys, rfl, hxs, hys⟩ := Program.converses_bind.mp h
  obtain ⟨reply, rfl, rfl⟩ := Operation.converses_ask.mp hxs
  cases reply with
  | ok u => cases (Program.converses_done.mp hys).2
  | error fault =>
      obtain ⟨rfl, he⟩ := Program.converses_done.mp hys
      cases he
      have hfree : ∀ c ∈ [notInstalled f], ¬c.IsDriver := by simp [notInstalled, Cause.IsDriver]
      have hbehind : (Error.ofCause (.driver fault)).StandsBehind [notInstalled f]
          ((Error.ofCause (.driver fault)).within (notInstalled f)) := Error.standsBehind_of_layers rfl
      exact ⟨fault, rfl, Error.message_within _ _, hbehind.fault hfree, hbehind.recovery hfree⟩

end Operations

end Docstore
