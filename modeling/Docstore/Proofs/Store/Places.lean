import Docstore.Proofs.Store.Successes

/-!
# Work in two places

Work on objects asks in a session what it asks on a connection from the pool, and comes to the same, but for the
savepoints that it takes there (`Work.Portable.alike`). Those are numbered one after another
(`Work.Portable.savepointsTaken`).
-/

namespace Docstore

open Docstore.Engine
open Docstore.Time (Instant)

/-! ## Connections and savepoints -/

namespace Engine

/-- The same exchange on another connection. -/
def Exchange.on (c : Connection) : Exchange → Exchange
  | ⟨.connect _, reply⟩ => ⟨.connect c, reply⟩
  | ⟨.send _ command, reply⟩ => ⟨.send c command, reply⟩
  | ⟨.prepare _ p, reply⟩ => ⟨.prepare c p, reply⟩
  | ⟨.execute _ p arguments, reply⟩ => ⟨.execute c p arguments, reply⟩

/-- Whether a request is about a savepoint of a session. -/
def Request.isSavepoint : Request → Bool
  | send _ (.control (.savepoint _)) | send _ (.control (.release _)) | send _ (.control (.rollbackTo _)) => true
  | _ => false

/-- The number of the savepoint that a request takes. -/
def Request.savepoint? : Request → Option Nat
  | send _ (.control (.savepoint k)) => some k
  | _ => none

/-- What is said other than about savepoints, as it would be said on a connection from the pool. -/
def ownExchanges (es : List Exchange) : List Exchange :=
  (es.filter fun e => !e.request.isSavepoint).map (·.on .pooled)

/-- Nothing that is said about savepoints fails. -/
def Unhindered (es : List Exchange) : Prop := ∀ e ∈ es, e.request.isSavepoint = true → e.failed = false

instance (es : List Exchange) : Decidable (Unhindered es) :=
  inferInstanceAs (Decidable (∀ e ∈ es, e.request.isSavepoint = true → e.failed = false))

/-- The numbers of the savepoints that are taken. -/
def savepointsTaken (es : List Exchange) : List Nat := es.filterMap (·.request.savepoint?)

section Exchanges

variable {e : Exchange} {es xs ys : List Exchange}

@[simp] theorem ownExchanges_append : ownExchanges (xs ++ ys) = ownExchanges xs ++ ownExchanges ys := by
  rw [ownExchanges, List.filter_append, List.map_append]
  rfl

@[simp] theorem ownExchanges_savepoint (h : e.request.isSavepoint = true) : ownExchanges (e :: es) = ownExchanges es := by
  simp [ownExchanges, h]

/-- What is said between two statements about savepoints is all that is said otherwise. -/
theorem ownExchanges_between {close : Exchange} (h : e.request.isSavepoint = true)
    (hclose : close.request.isSavepoint = true) : ownExchanges (e :: es ++ [close]) = ownExchanges es := by
  rw [List.cons_append, ownExchanges_savepoint h, ownExchanges_append, ownExchanges_savepoint hclose]
  exact List.append_nil _

theorem unhindered_append : Unhindered (xs ++ ys) ↔ Unhindered xs ∧ Unhindered ys := List.forall_mem_append

theorem unhindered_cons :
    Unhindered (e :: es) ↔ (e.request.isSavepoint = true → e.failed = false) ∧ Unhindered es := List.forall_mem_cons

@[simp] theorem savepointsTaken_append : savepointsTaken (xs ++ ys) = savepointsTaken xs ++ savepointsTaken ys :=
  List.filterMap_append

theorem savepointsTaken_of_none (h : ∀ e ∈ es, e.request.savepoint? = none) : savepointsTaken es = [] :=
  List.filterMap_eq_nil_iff.mpr h

end Exchanges

namespace Queried

variable {c c' : Connection} {p : Prepared} {es : List Exchange} {r : Result Answer}

/-- A query says nothing about savepoints. -/
theorem isSavepoint_eq (h : Queried c p es r) : ∀ e ∈ es, e.request.isSavepoint = false ∧ e.request.savepoint? = none := by
  cases h <;> simp [Exchange.ofSuccess, Request.isSavepoint, Request.savepoint?]

theorem on (h : Queried c p es r) (c' : Connection) : Queried c' p (es.map (·.on c')) r := by
  cases h with
  | refused f => exact .refused f
  | unwritten hwritten => exact .unwritten hwritten
  | failed hwritten f => exact .failed hwritten f
  | answered hwritten answer => exact .answered hwritten answer

theorem map_on (h : Queried c p es r) : (es.map (·.on c')).map (·.on c) = es := by
  cases h <;> rfl

theorem ownExchanges_eq (h : Queried c p es r) : ownExchanges es = es.map (·.on .pooled) := by
  rw [ownExchanges, List.filter_eq_self.mpr fun e he => by rw [(h.isSavepoint_eq e he).1]; rfl]

theorem unhindered (h : Queried c p es r) : Unhindered es := by
  intro e he hsavepoint
  rw [(h.isSavepoint_eq e he).1] at hsavepoint
  cases hsavepoint

end Queried

end Engine

/-! ## Queries behind savepoints -/

/--
A query behind a savepoint, and what comes of it. The query is asked once the savepoint is taken. Then the savepoint is
released, or gone back to where the query failed in a way that is recovered from; after any other failure nothing more
is said.
-/
inductive Sheltered (name : String) (k : Nat) (recovers : Error → Bool) (p : Prepared) :
    List Exchange → Result (Option Answer) → Prop
  | untaken (f : EngineFault) : Sheltered name k recovers p
      [⟨.send (.session name) (.control (.savepoint k)), .error f⟩] (.error (.ofCause (.driver f)))
  | answered {es : List Exchange} {answer : Answer} (h : Queried (.session name) p es (.ok answer))
      (reply : Except EngineFault Unit) : Sheltered name k recovers p
        (⟨.send (.session name) (.control (.savepoint k)), .ok ()⟩ :: es ++
          [⟨.send (.session name) (.control (.release k)), reply⟩]) (Operation.closing (some answer) reply)
  | recovered {es : List Exchange} {e : Error} (h : Queried (.session name) p es (.error (.error e)))
      (he : recovers e = true) (reply : Except EngineFault Unit) : Sheltered name k recovers p
        (⟨.send (.session name) (.control (.savepoint k)), .ok ()⟩ :: es ++
          [⟨.send (.session name) (.control (.rollbackTo k)), reply⟩]) (Operation.closing none reply)
  | failed {es : List Exchange} {f : Fault} (h : Queried (.session name) p es (.error f))
      (hf : ∀ e, f = .error e → recovers e = false) : Sheltered name k recovers p
        (⟨.send (.session name) (.control (.savepoint k)), .ok ()⟩ :: es) (.error f)

namespace Work

variable {α β : Type} {name : String} {k n m : Nat} {recovers : Error → Bool} {p : Prepared} {es : List Exchange}

theorem converses_guarded {r : Result (Option Answer)} :
    (guarded name k recovers p).run.Converses es r ↔ Sheltered name k recovers p es r := by
  rw [guarded, Operation.converses_bind]
  constructor
  · rintro (⟨u, xs, ys, rfl, hsave, hrest⟩ | ⟨f, hsave, rfl⟩)
    · obtain ⟨f | ⟨⟩, rfl, hu⟩ := Operation.converses_send.mp hsave
      · cases hu
      · obtain ⟨r', zs, ws, rfl, hquery, hclose⟩ | ⟨f, hquery, -⟩ := Operation.converses_bind.mp hrest
        · obtain ⟨r'', hqueried, hr⟩ := Operation.converses_result.mp hquery
          cases hr
          have h := Operation.converses_query.mp hqueried
          rcases r' with (e | -) | answer
          · cases he : recovers e with
            | true =>
                simp only [he, if_true] at hclose
                obtain ⟨reply, rfl, rfl⟩ := Operation.converses_closing.mp hclose
                exact .recovered h he reply
            | false =>
                simp only [he] at hclose
                obtain ⟨rfl, rfl⟩ := Program.converses_done.mp hclose
                rw [List.append_nil]
                refine .failed h fun e' he' => ?_
                cases he'
                exact he
          · obtain ⟨rfl, rfl⟩ := Program.converses_done.mp hclose
            rw [List.append_nil]
            exact .failed h nofun
          · obtain ⟨reply, rfl, rfl⟩ := Operation.converses_closing.mp hclose
            exact .answered h reply
        · obtain ⟨r', -, hr⟩ := Operation.converses_result.mp hquery
          cases hr
    · obtain ⟨f' | ⟨⟩, rfl, hf⟩ := Operation.converses_send.mp hsave
      · cases hf
        exact .untaken f'
      · cases hf
  · have hsaved : (Operation.send (.session name) (.control (.savepoint k))).run.Converses
        [⟨.send (.session name) (.control (.savepoint k)), .ok ()⟩] (.ok ()) :=
      Operation.converses_send.mpr ⟨.ok (), rfl, rfl⟩
    have hasked : ∀ {xs : List Exchange} {r' : Result Answer}, Queried (.session name) p xs r' →
        (Operation.result (Operation.query (.session name) p)).run.Converses xs (.ok r') :=
      fun h => Operation.converses_result.mpr ⟨_, Operation.converses_query.mpr h, rfl⟩
    intro h
    cases h with
    | untaken f => exact .inr ⟨_, Operation.converses_send.mpr ⟨.error f, rfl, rfl⟩, rfl⟩
    | answered h reply =>
        exact .inl ⟨(), [_], _, rfl, hsaved, Operation.converses_go (hasked h) (Operation.converses_closing.mpr ⟨reply, rfl, rfl⟩)⟩
    | recovered h he reply =>
        refine .inl ⟨(), [_], _, rfl, hsaved, Operation.converses_go (hasked h) ?_⟩
        simp only [he, if_true]
        exact Operation.converses_closing.mpr ⟨reply, rfl, rfl⟩
    | @failed es f h hf =>
        refine .inl ⟨(), [_], es, rfl, hsaved, ?_⟩
        rw [← List.append_nil es]
        refine Operation.converses_go (hasked h) ?_
        cases f with
        | error e =>
            simp only [hf e rfl]
            exact .done _
        | crash => exact .done _

/-! ## Work that may run in both places -/

/-- Work that is put together in the same way wherever it runs. -/
inductive Portable : {α : Type} → (Place → Work α) → Prop
  | ofResult {α : Type} (r : Result α) : Portable fun _ => liftM r
  | query (p : Prepared) : Portable fun place => Work.query place p
  | recovering (recovers : Error → Bool) (p : Prepared) : Portable fun place => Work.recovering place recovers p
  | asDuplicate {α : Type} {work : Place → Work α} (h : Portable work) :
      Portable fun place => Objects.asDuplicate (work place)
  | bind {α β : Type} {work : Place → Work α} {f : α → Place → Work β} (h : Portable work)
      (hf : ∀ a, Portable (f a)) : Portable fun place => work place >>= fun a => f a place

namespace Portable

theorem pure {α : Type} (a : α) : Portable fun _ => (Pure.pure a : Work α) := .ofResult (.ok a)

theorem throw {α : Type} (f : Fault) : Portable fun _ => (MonadExcept.throw f : Work α) := .ofResult (.error f)

theorem ite {α : Type} {condition : Prop} [Decidable condition] {work work' : Place → Work α} (h : Portable work)
    (h' : Portable work') : Portable fun place => if condition then work place else work' place := by
  split
  · exact h
  · exact h'

end Portable

/-! ### The same in both places -/

/--
Work that asks and comes to the same in both places, where nothing that a session says about savepoints fails,
however many savepoints were taken before.
-/
def Alike {α : Type} (name : String) (work : Place → Work α) : Prop :=
  ∀ n n' xs r, (∃ m, ((work .pooled).run.run n).Converses xs (r, m)) ↔
    ∃ es m, ((work (.session name)).run.run n').Converses es (r, m) ∧ Unhindered es ∧ ownExchanges es = xs

theorem converses_ofResult {r r' : Result α} :
    ((liftM r : Work α).run.run n).Converses es (r', m) ↔ es = [] ∧ r' = r ∧ m = n := by
  show (Program.done (r, n)).Converses es (r', m) ↔ _
  rw [Program.converses_done, Prod.mk.injEq]

theorem converses_ofOperation {op : Operation α} {r : Result α} :
    ((ofOperation op).run.run n).Converses es (r, m) ↔ op.run.Converses es r ∧ m = n := by
  show (op.run.bind _).Converses es (r, m) ↔ _
  rw [Program.converses_map fun _ => rfl]
  simp only [Prod.mk.injEq]
  exact ⟨fun ⟨_, h, hr, hm⟩ => ⟨hr ▸ h, hm⟩, fun ⟨h, hm⟩ => ⟨r, h, rfl, hm⟩⟩

/-- Work goes on after work that has succeeded, and has failed as a whole where its first part has. -/
theorem converses_bind {work : Work α} {f : α → Work β} {r : Result β} :
    ((work >>= f).run.run n).Converses es (r, m) ↔
      (∃ a k xs ys, es = xs ++ ys ∧ (work.run.run n).Converses xs (.ok a, k) ∧ ((f a).run.run k).Converses ys (r, m)) ∨
        ∃ e, (work.run.run n).Converses es (.error e, m) ∧ r = .error e := by
  show ((work.run.run n).bind _).Converses es (r, m) ↔ _
  rw [Program.converses_bind]
  constructor
  · rintro ⟨⟨e | a, k⟩, xs, ys, rfl, hxs, hys⟩
    · obtain ⟨rfl, hpair⟩ := Program.converses_done.mp hys
      cases hpair
      rw [List.append_nil]
      exact .inr ⟨e, hxs, rfl⟩
    · exact .inl ⟨a, k, xs, ys, rfl, hxs, hys⟩
  · rintro (⟨a, k, xs, ys, rfl, hxs, hys⟩ | ⟨e, h, rfl⟩)
    · exact ⟨(.ok a, k), xs, ys, rfl, hxs, hys⟩
    · exact ⟨(.error e, m), es, [], (List.append_nil es).symm, h, .done _⟩

/-- Violated unique constraints as duplicate values. -/
def duplicated {α : Type} : Result α → Result α
  | .error (.error e) => .error (.error e.asDuplicate)
  | r => r

theorem converses_asDuplicate {work : Work α} {r : Result α} :
    ((Objects.asDuplicate work).run.run n).Converses es (r, m) ↔
      ∃ r', (work.run.run n).Converses es (r', m) ∧ r = duplicated r' := by
  show ((work.run.run n).bind _).Converses es (r, m) ↔ _
  rw [Program.converses_map (g := fun o => (duplicated o.1, o.2))]
  · constructor
    · rintro ⟨⟨r', k⟩, h, hpair⟩
      cases hpair
      exact ⟨r', h, rfl⟩
    · rintro ⟨r', h, rfl⟩
      exact ⟨(r', m), h, rfl⟩
  · rintro ⟨(e | -) | a, k⟩
    all_goals rfl

/-- What a query comes to where some failures of it are recovered from. -/
def recovered (recovers : Error → Bool) : Result Answer → Result (Option Answer)
  | .error (.error e) => if recovers e then .ok none else .error (.error e)
  | .error .crash => .error .crash
  | .ok answer => .ok (some answer)

theorem converses_recovering_pooled {r : Result (Option Answer)} :
    ((recovering .pooled recovers p).run.run n).Converses es (r, m) ↔
      ∃ r', Queried .pooled p es r' ∧ r = recovered recovers r' ∧ m = n := by
  rw [recovering, converses_ofOperation, Operation.recover, Operation.map_eq, Operation.run_bind]
  show ((Program.bind _ _).bind _).Converses es r ∧ _ ↔ _
  rw [Program.bind_assoc, Program.converses_map (g := recovered recovers)]
  · simp only [← and_assoc, ← exists_and_right]
    exact exists_congr fun r' => and_congr_left' (and_congr_left' Operation.converses_query)
  · rintro ((e | -) | answer)
    · show Program.done _ = Program.done _
      cases he : recovers e <;> simp [recovered, he]
    · rfl
    · rfl

theorem converses_recovering_session {r : Result (Option Answer)} :
    ((recovering (.session name) recovers p).run.run n).Converses es (r, m) ↔
      Sheltered name (n + 1) recovers p es r ∧ m = n + 1 := by
  show ((ofOperation (guarded name (n + 1) recovers p)).run.run (n + 1)).Converses es (r, m) ↔ _
  rw [converses_ofOperation, converses_guarded]

end Work

/-- Where savepoints do not fail, a query behind one comes to what it comes to alone. -/
theorem Sheltered.unhindered {name : String} {k : Nat} {recovers : Error → Bool} {p : Prepared} {es : List Exchange}
    {r : Result (Option Answer)} (h : Sheltered name k recovers p es r) (hes : Unhindered es) :
    ∃ r', Queried .pooled p (ownExchanges es) r' ∧ r = Work.recovered recovers r' := by
  cases h with
  | untaken f => cases (unhindered_cons.mp hes).1 rfl
  | @answered xs answer h reply =>
      obtain ⟨-, hclose⟩ := unhindered_append.mp hes
      have hreply := (unhindered_cons.mp hclose).1 rfl
      rcases reply with f | ⟨⟩
      · cases hreply
      · refine ⟨.ok answer, ?_, rfl⟩
        rw [ownExchanges_between rfl rfl, h.ownExchanges_eq]
        exact h.on .pooled
  | @recovered xs e h he reply =>
      obtain ⟨-, hclose⟩ := unhindered_append.mp hes
      have hreply := (unhindered_cons.mp hclose).1 rfl
      rcases reply with f | ⟨⟩
      · cases hreply
      · refine ⟨.error (.error e), ?_, by simp [Work.recovered, he, Operation.closing]⟩
        rw [ownExchanges_between rfl rfl, h.ownExchanges_eq]
        exact h.on .pooled
  | @failed xs f h hf =>
      refine ⟨.error f, ?_, ?_⟩
      · rw [ownExchanges_savepoint rfl, h.ownExchanges_eq]
        exact h.on .pooled
      · cases f with
        | error e => simp [Work.recovered, hf e rfl]
        | crash => rfl

theorem Sheltered.savepointsTaken {name : String} {k : Nat} {recovers : Error → Bool} {p : Prepared}
    {es : List Exchange} {r : Result (Option Answer)} (h : Sheltered name k recovers p es r) :
    savepointsTaken es = [k] := by
  have hnone : ∀ {xs : List Exchange} {r' : Result Answer}, Queried (.session name) p xs r' →
      Engine.savepointsTaken xs = [] :=
    fun h => savepointsTaken_of_none fun e he => (h.isSavepoint_eq e he).2
  cases h with
  | untaken f => rfl
  | answered h reply | recovered h he reply =>
      rw [savepointsTaken_append]
      exact congrArg (k :: · ++ []) (hnone h)
  | failed h hf => exact congrArg (k :: ·) (hnone h)

/-- A query that is asked alone can be asked behind a savepoint. -/
theorem Engine.Queried.exists_sheltered {p : Prepared} {xs : List Exchange} {r : Result Answer}
    (h : Queried .pooled p xs r) (name : String) (k : Nat) (recovers : Error → Bool) :
    ∃ es, Sheltered name k recovers p es (Work.recovered recovers r) ∧ Unhindered es ∧ ownExchanges es = xs := by
  have hasked : Queried (.session name) p (xs.map (·.on (.session name))) r := h.on _
  have hown : ownExchanges (xs.map (·.on (.session name))) = xs := hasked.ownExchanges_eq.trans h.map_on
  have hopen : Unhindered (⟨.send (.session name) (.control (.savepoint k)), .ok ()⟩ :: xs.map (·.on (.session name))) :=
    unhindered_cons.mpr ⟨fun _ => rfl, hasked.unhindered⟩
  have hclosed : ∀ c : Sql.TransactionControl, Unhindered [⟨.send (.session name) (.control c), .ok ()⟩] :=
    fun _ => unhindered_cons.mpr ⟨fun _ => rfl, List.forall_mem_nil _⟩
  have hfailed : ∀ {f : Fault}, r = .error f → (∀ e, f = .error e → recovers e = false) →
      ∃ es, Sheltered name k recovers p es (.error f) ∧ Unhindered es ∧ ownExchanges es = xs := by
    rintro f rfl hf
    exact ⟨_, .failed hasked hf, hopen, (ownExchanges_savepoint rfl).trans hown⟩
  rcases r with (e | -) | answer
  · rw [Work.recovered]
    split
    next he =>
      exact ⟨_, .recovered hasked he (.ok ()), unhindered_append.mpr ⟨hopen, hclosed _⟩,
        (ownExchanges_between rfl rfl).trans hown⟩
    next he =>
      refine hfailed rfl fun e' he' => ?_
      cases he'
      exact Bool.of_not_eq_true he
  · exact hfailed rfl nofun
  · exact ⟨_, .answered hasked (.ok ()), unhindered_append.mpr ⟨hopen, hclosed _⟩,
      (ownExchanges_between rfl rfl).trans hown⟩

namespace Work

/-- Work that is put together in the same way is alike in both places. -/
theorem Portable.alike {α : Type} {work : Place → Work α} (h : Portable work) (name : String) : Alike name work := by
  induction h with
  | ofResult r =>
      intro n n' xs r'
      simp only [converses_ofResult]
      constructor
      · rintro ⟨m, rfl, rfl, rfl⟩
        exact ⟨[], n', ⟨rfl, rfl, rfl⟩, List.forall_mem_nil _, rfl⟩
      · rintro ⟨es, m, ⟨rfl, rfl, rfl⟩, -, rfl⟩
        exact ⟨n, rfl, rfl, rfl⟩
  | query p =>
      intro n n' xs r
      simp only [Work.query, converses_ofOperation, Place.connection, Operation.converses_query]
      constructor
      · rintro ⟨m, h, rfl⟩
        have hasked := h.on (.session name)
        exact ⟨_, n', ⟨hasked, rfl⟩, hasked.unhindered, hasked.ownExchanges_eq.trans h.map_on⟩
      · rintro ⟨es, m, ⟨h, rfl⟩, -, rfl⟩
        refine ⟨n, ?_, rfl⟩
        rw [h.ownExchanges_eq]
        exact h.on .pooled
  | recovering recovers p =>
      intro n n' xs r
      simp only [converses_recovering_pooled, converses_recovering_session]
      constructor
      · rintro ⟨m, r', h, rfl, rfl⟩
        obtain ⟨es, hes, hunhindered, hown⟩ := h.exists_sheltered name (n' + 1) recovers
        exact ⟨es, n' + 1, ⟨hes, rfl⟩, hunhindered, hown⟩
      · rintro ⟨es, m, ⟨h, rfl⟩, hunhindered, rfl⟩
        obtain ⟨r', hqueried, rfl⟩ := h.unhindered hunhindered
        exact ⟨n, r', hqueried, rfl, rfl⟩
  | asDuplicate _ ih =>
      intro n n' xs r
      simp only [converses_asDuplicate]
      constructor
      · rintro ⟨m, r', h, rfl⟩
        obtain ⟨es, m', hes, hunhindered, hown⟩ := (ih n n' xs r').mp ⟨m, h⟩
        exact ⟨es, m', ⟨r', hes, rfl⟩, hunhindered, hown⟩
      · rintro ⟨es, m, ⟨r', hes, rfl⟩, hunhindered, hown⟩
        obtain ⟨m', h⟩ := (ih n n' xs r').mpr ⟨es, m, hes, hunhindered, hown⟩
        exact ⟨m', r', h, rfl⟩
  | bind _ _ ih ihf =>
      intro n n' xs r
      simp only [converses_bind]
      constructor
      · rintro ⟨m, ⟨a, k, ys, zs, rfl, hys, hzs⟩ | ⟨e, h, rfl⟩⟩
        · obtain ⟨es, k', hes, hunhindered, rfl⟩ := (ih n n' ys _).mp ⟨k, hys⟩
          obtain ⟨es', m', hes', hunhindered', rfl⟩ := (ihf a k k' zs r).mp ⟨m, hzs⟩
          exact ⟨es ++ es', m', .inl ⟨a, k', es, es', rfl, hes, hes'⟩,
            unhindered_append.mpr ⟨hunhindered, hunhindered'⟩, ownExchanges_append⟩
        · obtain ⟨es, m', hes, hunhindered, hown⟩ := (ih n n' xs _).mp ⟨m, h⟩
          exact ⟨es, m', .inr ⟨e, hes, rfl⟩, hunhindered, hown⟩
      · rintro ⟨es, m, ⟨a, k, ys, zs, rfl, hys, hzs⟩ | ⟨e, h, rfl⟩, hunhindered, rfl⟩
        · obtain ⟨hunhindered, hunhindered'⟩ := unhindered_append.mp hunhindered
          obtain ⟨k', hes⟩ := (ih n n' _ _).mpr ⟨ys, k, hys, hunhindered, rfl⟩
          obtain ⟨m', hes'⟩ := (ihf a k' k _ r).mpr ⟨zs, m, hzs, hunhindered', rfl⟩
          exact ⟨m', .inl ⟨a, k', _, _, ownExchanges_append, hes, hes'⟩⟩
        · obtain ⟨m', h⟩ := (ih n n' _ _).mpr ⟨es, m, h, hunhindered, rfl⟩
          exact ⟨m', .inr ⟨e, h, rfl⟩⟩

/-! ### Numbers of savepoints -/

/-- In a session, the savepoints that are taken are numbered one after another, from where it was before. -/
theorem Portable.savepointsTaken {α : Type} {work : Place → Work α} (h : Portable work) {name : String}
    {n m : Nat} {es : List Exchange} {r : Result α}
    (hes : ((work (.session name)).run.run n).Converses es (r, m)) :
    n ≤ m ∧ savepointsTaken es = List.range' (n + 1) (m - n) := by
  induction h generalizing n m es with
  | ofResult r' =>
      obtain ⟨rfl, -, rfl⟩ := converses_ofResult.mp hes
      exact ⟨Nat.le_refl _, by simp [Engine.savepointsTaken]⟩
  | query p =>
      obtain ⟨hasked, rfl⟩ := converses_ofOperation.mp hes
      have h := Operation.converses_query.mp hasked
      rw [savepointsTaken_of_none fun e he => (h.isSavepoint_eq e he).2, Nat.sub_self]
      exact ⟨Nat.le_refl _, rfl⟩
  | recovering recovers p =>
      obtain ⟨h, rfl⟩ := converses_recovering_session.mp hes
      exact ⟨Nat.le_succ n, by rw [h.savepointsTaken, Nat.add_sub_cancel_left]; rfl⟩
  | asDuplicate _ ih =>
      obtain ⟨r', h, -⟩ := converses_asDuplicate.mp hes
      exact ih h
  | bind _ _ ih ihf =>
      rcases converses_bind.mp hes with ⟨a, k, xs, ys, rfl, hxs, hys⟩ | ⟨e, h, -⟩
      · obtain ⟨hnk, hxs⟩ := ih hxs
        obtain ⟨hkm, hys⟩ := ihf a hys
        refine ⟨Nat.le_trans hnk hkm, ?_⟩
        rw [savepointsTaken_append, hxs, hys, show k + 1 = n + 1 + (k - n) by omega, List.range'_append_1]
        congr 1
        omega
      · exact ih h

end Work

/-! ## Work on objects -/

namespace Objects

open Work (Portable)

variable {schema : Schema} {now : Instant} {query : Document}

theorem read_portable (p : Prepared) : Portable fun place => read place p :=
  (Portable.recovering _ p).bind fun _ => .pure _

theorem insertRow_portable {object : Document} {ignoreConflict : Bool} :
    Portable (insertRow schema object ignoreConflict) :=
  (Portable.ofResult _).bind fun _ => (Portable.query _).asDuplicate.bind fun _ => .pure _

theorem find_portable {options : Query.FindOptions} : Portable (find schema now query options) :=
  (Portable.ofResult _).bind fun _ => (read_portable _).bind fun _ => .ofResult _

theorem estimate?_portable {className : String} : Portable (estimate? className) :=
  (Portable.query _).bind fun answer => by
    cases answer.rows with
    | nil => exact .pure none
    | cons r _ => exact (Portable.ofResult _).bind fun _ => .pure _

/-- The number of the objects that match a query, where none was guessed. -/
theorem counted_portable {stored : Schema} (guessed : Option Int) : Portable fun place =>
    (match guessed with
      | some n => pure n
      | none => do
        let statement ← Query.count stored now query
        countIn (← read place (.objects statement)) : Work Int) := by
  cases guessed with
  | some n => exact .pure n
  | none => exact (Portable.ofResult _).bind fun _ => (read_portable _).bind fun _ => .ofResult _

theorem count_portable {guess : Bool} : Portable (count schema now query guess) :=
  .ite (estimate?_portable.bind counted_portable) ((Portable.pure none).bind counted_portable)

theorem update_portable {changes : Document} : Portable (Objects.update schema now query changes) :=
  (Portable.ofResult _).bind fun _ => .ite find_portable <|
    (Portable.ofResult _).bind fun _ => (Portable.query _).asDuplicate.bind fun _ => .ofResult _

theorem delete_portable : Portable (delete schema now query) :=
  (Portable.ofResult _).bind fun _ => (Portable.recovering _ _).bind fun answer => by
    cases answer with
    | none => exact .pure ()
    | some answer => exact (Portable.ofResult _).bind fun _ => .ite (.throw _) (.pure _)

end Objects

theorem ObjectOperation.work_portable (operation : ObjectOperation) : Work.Portable operation.work := by
  cases operation with
  | create schema object => exact Objects.insertRow_portable.bind fun _ => .pure _
  | find schema now query options => exact Objects.find_portable
  | count schema now query guess => exact Objects.count_portable
  | distinct schema now field query =>
      exact (Work.Portable.ofResult _).bind fun _ => (Objects.read_portable _).bind fun _ =>
        (Work.Portable.ofResult _).bind fun _ => .pure _
  | aggregate schema stages explain =>
      exact (Work.Portable.ofResult _).bind fun _ => (Objects.read_portable _).bind fun _ => .ofResult _
  | update schema now query change => exact Objects.update_portable
  | updateFirst schema now query change => exact Objects.update_portable.bind fun _ => .pure _
  | upsert schema now query change =>
      exact Objects.insertRow_portable.bind fun _ => .ite (Objects.update_portable.bind fun _ => .pure _) (.pure _)
  | delete schema now query => exact Objects.delete_portable

end Docstore
