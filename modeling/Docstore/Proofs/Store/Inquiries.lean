import Docstore.Proofs.Results
import Docstore.Proofs.Store.Places

/-!
# Inquiries

To find, count, tell values apart, aggregate and delete is to ask one query, which may fail because something is
missing. In a session the query is asked behind a savepoint, and comes to what it comes to on a connection from the
pool (`Session.inquires_like_pool`).
-/

namespace Docstore

open Docstore.Engine

/-! ## Queries that are recovered from -/

/-- An operation that asks a query and goes on where it failed because something is missing. -/
structure Inquiry (α : Type) where
  /-- A query that is asked first, and the answer that may be had of it alone. -/
  guess : Option (Prepared × (Answer → Result (Option α)))
  /-- The query, and what is made of its answer, none where it has failed and was recovered from. -/
  compiled : Result (Prepared × (Option Answer → Result α))
  /-- The states of failures that are recovered from. -/
  recovered : List SqlState

namespace Inquiry

variable {α : Type}

def recovers (i : Inquiry α) (e : Error) : Bool := i.recovered.any fun state => e.hasState state

def guessAt (i : Inquiry α) (place : Place) : Work (Option α) :=
  match i.guess with
  | none => pure none
  | some (p, read) => do
    let answer ← Work.query place p
    read answer

def ask (i : Inquiry α) (place : Place) : Work α := do
  let (p, read) ← i.compiled
  let answer ← Work.recovering place i.recovers p
  read answer

def work (i : Inquiry α) (place : Place) : Work α := do
  match ← i.guessAt place with
  | some a => return a
  | none => i.ask place

end Inquiry

/-- The number that the planner guesses, if it does. -/
def Objects.guessIn (answer : Answer) : Result (Option Int) :=
  match answer.rows with
  | [] => .ok none
  | r :: _ => (r.float4? 0).map fun guess => (guess.filter (Double.le 0)).map (Double.clamp (-int64Bound) (int64Bound - 1))

/-- The inquiry that an operation is; those that write are none. Where a class is read, a column may be missing too. -/
def ObjectOperation.inquiry? : (operation : ObjectOperation) → Option (Inquiry operation.Answer)
  | find schema now query options => some
    { guess := none
      compiled := (Query.find schema.toStorage now query options).map fun s => (.objects s, fun answer =>
        (Objects.rowsOf answer).mapM (if options.explain then planOf else schema.toStorage.objectOf))
      recovered := [.undefinedTable, .undefinedColumn] }
  | count schema now query guess => some
    { guess := if guess && query.isEmpty then
          some (.objects (Query.countEstimate schema.toStorage.className), Objects.guessIn)
        else none
      compiled := (Query.count schema.toStorage now query).map fun s =>
        (.objects s, fun answer => Objects.countIn (Objects.rowsOf answer))
      recovered := [.undefinedTable, .undefinedColumn] }
  | distinct schema now field query => some
    { guess := none
      compiled := (Query.distinct schema.toStorage now field query).map fun s => (.objects s, fun answer =>
        ((Objects.rowsOf answer).mapM Objects.firstValue).map fun values =>
          (values.filter (!·.isNull)).map
            (Encoding.decode (if Query.isDotted field then none else schema.toStorage.fieldType? field)))
      recovered := [.undefinedTable, .undefinedColumn] }
  | aggregate schema stages explain => some
    { guess := none
      compiled := (Query.Pipeline.compile schema.toStorage stages).map fun pipeline =>
        let statement := pipeline.statement schema.toStorage
        (if explain then .plan statement else .objects statement, fun answer =>
          (Objects.rowsOf answer).mapM fun r =>
            if explain then planOf r else (schema.toStorage.objectOf r).map pipeline.shapeRow)
      recovered := [.undefinedTable, .undefinedColumn] }
  | delete schema now query => some
    { guess := none
      compiled := (Query.delete schema.toStorage now query).map fun s => (.objects s, fun
        | none => .ok ()
        | some answer => (Objects.countIn answer.rows).bind fun deleted =>
          if deleted = 0 then fail (.objectNotFound "Object not found.") else .ok ())
      recovered := [.undefinedTable] }
  | _ => none

namespace Engine.Program

instance : LawfulMonad Program := LawfulMonad.mk' Program bind_done (fun _ _ => rfl) bind_assoc

end Engine.Program

namespace Inquiry

variable {α : Type}

theorem isMissing_eq : Error.isMissing = fun e => [SqlState.undefinedTable, .undefinedColumn].any (e.hasState ·) := by
  funext e
  simp [Error.isMissing]

theorem read_bind {place : Place} {p : Prepared} {f : List Wire.Row → Work α} {recovers : Error → Bool}
    (h : recovers = Error.isMissing) :
    (Objects.read place p >>= f) = Work.recovering place recovers p >>= fun answer => f (Objects.rowsOf answer) := by
  rw [Objects.read, bind_assoc, h]
  rfl

theorem estimate?_eq (className : String) (place : Place) : Objects.estimate? className place =
    Work.query place (.objects (Query.countEstimate className)) >>= fun answer => liftM (Objects.guessIn answer) := by
  refine bind_congr fun answer => ?_
  rw [Objects.guessIn]
  cases answer.rows with
  | nil => rfl
  | cons r _ =>
      dsimp only
      cases r.float4? 0 <;> rfl

theorem work_of_no_guess {i : Inquiry α} {place : Place} (h : i.guess = none) : i.work place = i.ask place := by
  rw [work, guessAt, h]
  rfl

/-- To compile a statement and go on is to ask, if to go on is to ask for each statement. -/
theorem compiled_bind {σ : Type} {place : Place} {c : Result σ} {f : σ → Prepared × (Option Answer → Result α)}
    {g : σ → Work α} {guess : Option (Prepared × (Answer → Result (Option α)))} {recovered : List SqlState}
    (h : ∀ s, g s = (⟨guess, .ok (f s), recovered⟩ : Inquiry α).ask place) :
    (liftM c >>= g : Work α) = (⟨guess, c.map f, recovered⟩ : Inquiry α).ask place := by
  cases c with
  | error e => rfl
  | ok s => exact h s

theorem work_eq {operation : ObjectOperation} {i : Inquiry operation.Answer} (h : operation.inquiry? = some i) :
    operation.work = i.work := by
  funext place
  cases operation with
  | find schema now query options =>
      cases h
      rw [work_of_no_guess rfl]
      show (liftM (Query.find schema.toStorage now query options) >>= _ : Work (List Document)) = _
      exact compiled_bind fun s => read_bind isMissing_eq.symm
  | count schema now query guess =>
      cases h
      cases hguess : guess && query.isEmpty with
      | false =>
          rw [work_of_no_guess rfl]
          simp only [ObjectOperation.work, Objects.count, hguess]
          show (liftM (Query.count schema.toStorage now query) >>= _ : Work Int) = _
          exact compiled_bind fun s => read_bind isMissing_eq.symm
      | true =>
          simp only [ObjectOperation.work, Objects.count, hguess]
          show (Objects.estimate? schema.toStorage.className place >>= _ : Work Int) = _
          rw [estimate?_eq]
          refine bind_congr fun guessed => ?_
          rcases guessed with _ | n
          · show (liftM (Query.count schema.toStorage now query) >>= _ : Work Int) = _
            exact compiled_bind fun s => read_bind isMissing_eq.symm
          · rfl
  | distinct schema now field query =>
      cases h
      rw [work_of_no_guess rfl]
      show (liftM (Query.distinct schema.toStorage now field query) >>= _ : Work (List Json)) = _
      refine compiled_bind fun s => (read_bind isMissing_eq.symm).trans (bind_congr fun answer => ?_)
      dsimp only
      cases (Objects.rowsOf answer).mapM Objects.firstValue <;> rfl
  | aggregate schema stages explain =>
      cases h
      rw [work_of_no_guess rfl]
      show (liftM (Query.Pipeline.compile schema.toStorage stages) >>= _ : Work (List Document)) = _
      exact compiled_bind fun pipeline => read_bind isMissing_eq.symm
  | delete schema now query =>
      cases h
      rw [work_of_no_guess rfl]
      show (liftM (Query.delete schema.toStorage now query) >>= _ : Work Unit) = _
      refine compiled_bind fun s => ?_
      have hstate : (fun e : Error => e.hasState .undefinedTable) =
          fun e => [SqlState.undefinedTable].any (e.hasState ·) := by
        funext e
        simp
      show (Work.recovering place (fun e => e.hasState .undefinedTable) (.objects s) >>= _ : Work Unit) = _
      rw [hstate]
      refine bind_congr fun answer => ?_
      rcases answer with _ | answer
      · rfl
      · dsimp only
        cases Objects.countIn answer.rows with
        | error f => rfl
        | ok deleted =>
            show (if deleted = 0 then throw (.ofCause (.objectNotFound "Object not found.")) else pure () : Work Unit) =
              liftM (if deleted = 0 then fail (.objectNotFound "Object not found.") else .ok () : Result Unit)
            split <;> rfl
  | _ => cases h

/-! ## Inquiries in a session -/

/-- What is said before the query, and the answer that may be had of it: nothing, or a query without a savepoint. -/
inductive Guessed (i : Inquiry α) (c : Connection) : List Exchange → Result (Option α) → Prop
  | nothing (h : i.guess = none) : Guessed i c [] (.ok none)
  | asked {p : Prepared} {read : Answer → Result (Option α)} {es : List Exchange} {r : Result Answer}
      (h : i.guess = some (p, read)) (hes : Queried c p es r) : Guessed i c es (r.bind read)

/--
How an inquiry goes in a session, its result and the number of the last savepoint then. Whatever comes of the query
that is not recovered from is what comes of the inquiry.
-/
inductive Course (i : Inquiry α) (name : String) (n : Nat) : List Exchange → Result α → Nat → Prop
  | unguessed {es : List Exchange} {f : Fault} (h : i.Guessed (.session name) es (.error f)) :
      Course i name n es (.error f) n
  | guessed {es : List Exchange} {a : α} (h : i.Guessed (.session name) es (.ok (some a))) :
      Course i name n es (.ok a) n
  | refused {es : List Exchange} {f : Fault} (h : i.Guessed (.session name) es (.ok none))
      (hf : i.compiled = .error f) : Course i name n es (.error f) n
  | asked {xs ys : List Exchange} {p : Prepared} {read : Option Answer → Result α} {r : Result (Option Answer)}
      (h : i.Guessed (.session name) xs (.ok none)) (hp : i.compiled = .ok (p, read))
      (hys : Sheltered name (n + 1) i.recovers p ys r) : Course i name n (xs ++ ys) (r.bind read) (n + 1)

variable {i : Inquiry α} {name : String} {n m : Nat} {es : List Exchange}

theorem guessed_of_converses {r : Result (Option α)}
    (h : ((i.guessAt (.session name)).run.run n).Converses es (r, m)) : i.Guessed (.session name) es r ∧ m = n := by
  rw [guessAt] at h
  cases hguess : i.guess with
  | none =>
      rw [hguess] at h
      obtain ⟨rfl, rfl, rfl⟩ := Work.converses_ofResult.mp h
      exact ⟨.nothing hguess, rfl⟩
  | some guess =>
      obtain ⟨p, read⟩ := guess
      rw [hguess] at h
      rcases Work.converses_bind.mp h with ⟨answer, k, xs, ys, rfl, hquery, hread⟩ | ⟨f, hquery, rfl⟩
      · obtain ⟨rfl, rfl, rfl⟩ := Work.converses_ofResult.mp hread
        obtain ⟨hasked, rfl⟩ := Work.converses_ofOperation.mp hquery
        rw [List.append_nil]
        exact ⟨.asked hguess (Operation.converses_query.mp hasked), rfl⟩
      · obtain ⟨hasked, rfl⟩ := Work.converses_ofOperation.mp hquery
        exact ⟨.asked hguess (Operation.converses_query.mp hasked), rfl⟩

/-- Any conversation of an inquiry in a session is one of its courses. -/
theorem course_of_converses {r : Result α} (h : ((i.work (.session name)).run.run n).Converses es (r, m)) :
    i.Course name n es r m := by
  rcases Work.converses_bind.mp h with ⟨guess, k, xs, ys, rfl, hguess, hrest⟩ | ⟨f, hguess, rfl⟩
  · obtain ⟨hguessed, rfl⟩ := guessed_of_converses hguess
    rcases guess with _ | a
    · rcases Work.converses_bind.mp hrest with ⟨⟨p, read⟩, l, zs, ws, rfl, hcompiled, hasked⟩ | ⟨f, hcompiled, rfl⟩
      · obtain ⟨rfl, hp, rfl⟩ := Work.converses_ofResult.mp hcompiled
        rw [List.nil_append]
        rcases Work.converses_bind.mp hasked with ⟨answer, l', us, vs, rfl, hrecovering, hread⟩ | ⟨f, hrecovering, rfl⟩
        · obtain ⟨hsheltered, hm⟩ := Work.converses_recovering_session.mp hrecovering
          obtain ⟨rfl, rfl, rfl⟩ := Work.converses_ofResult.mp hread
          rw [List.append_nil, hm]
          exact .asked hguessed hp.symm hsheltered
        · obtain ⟨hsheltered, hm⟩ := Work.converses_recovering_session.mp hrecovering
          rw [hm]
          exact .asked hguessed hp.symm hsheltered
      · obtain ⟨rfl, hf, rfl⟩ := Work.converses_ofResult.mp hcompiled
        rw [List.append_nil]
        exact .refused hguessed hf.symm
    · obtain ⟨rfl, rfl, rfl⟩ := Work.converses_ofResult.mp hrest
      rw [List.append_nil]
      exact .guessed hguessed
  · obtain ⟨hguessed, rfl⟩ := guessed_of_converses hguess
    exact .unguessed hguessed

/-- What is missing is as good as empty. -/
theorem exists_read_none {operation : ObjectOperation} {i : Inquiry operation.Answer}
    (h : operation.inquiry? = some i) {p : Prepared} {read : Option Answer → Result operation.Answer}
    (hp : i.compiled = .ok (p, read)) : ∃ a, read none = .ok a := by
  cases operation with
  | find | count | distinct | aggregate | delete =>
      cases h
      obtain ⟨s, -, hs⟩ := Result.map_ok hp
      cases hs
      exact ⟨_, rfl⟩
  | _ => cases h

end Inquiry

/-! ## Sessions -/

/-- The failure that a session remembers of a result. -/
def remembered? {α : Type} : Result α → Option Error
  | .error (.error e) => some e
  | _ => none

namespace Store

/-- Work on a connection from the pool is carried out once there is one. -/
theorem converses_perform {α : Type} {store : Store} {work : Place → Work α} {es : List Exchange} {r : Result α}
    (hopen : store.closed = false) :
    (store.perform work).run.Converses (.ofSuccess (.connect .pooled) () :: es) r ↔
      ∃ n, ((work .pooled).run.run 0).Converses es (r, n) := by
  have hperformed : (store.perform work).run.Converses (.ofSuccess (.connect .pooled) () :: es) r ↔
      (((work .pooled).run.run 0).bind fun o => .done o.1).Converses es r := by
    rw [perform, Operation.converses_bind]
    simp only [converses_connect hopen]
    constructor
    · rintro (⟨u, ys, zs, hes, ⟨reply, rfl, -⟩, hwork⟩ | ⟨f, ⟨reply, hes, hf⟩, -⟩)
      · cases hes
        exact hwork
      · cases hes
        cases hf
    · exact fun h => .inl ⟨(), [_], es, rfl, ⟨.ok (), rfl, rfl⟩, h⟩
  rw [hperformed, Program.converses_map (g := Prod.fst) fun _ => rfl]
  constructor
  · rintro ⟨⟨r', n⟩, h, rfl⟩
    exact ⟨n, h⟩
  · rintro ⟨n, h⟩
    exact ⟨(r, n), h, rfl⟩

end Store

namespace Session

variable {s s' : Session} {es : List Exchange} {steps : List SessionStep}

theorem note_failure {α : Type} (r : Result α) : (s.note r).failure = s.failure.or (remembered? r) := by
  rcases r with (e | -) | a
  · show (s.failure <|> some e) = s.failure.or (some e)
    cases s.failure <;> rfl
  · exact (Option.or_none).symm
  · exact (Option.or_none).symm

theorem note_savepoints {α : Type} (r : Result α) : (s.note r).savepoints = s.savepoints := by
  rcases r with (e | -) | a
  all_goals rfl

theorem finish_savepoints {c : Sql.TransactionControl} {ending : Ending} {r : Result Unit}
    (h : (s.finish c ending).Converses es (r, s')) : s'.savepoints = s.savepoints := by
  obtain ⟨r', xs, ys, rfl, -, hdone⟩ := Program.converses_bind.mp h
  rcases r' with f | ⟨⟩
  all_goals
    cases (Program.converses_done.mp hdone).2
    rfl

/-- To end a session takes no savepoint. -/
theorem Ends.savepointsTaken {ending : Ending} {e : Exchange} (h : s.Ends ending e es s') : savepointsTaken es = [] := by
  rw [h.exchanges]
  refine savepointsTaken_of_none fun e' he' => ?_
  rw [List.mem_singleton.mp he', h.request]
  cases ending <;> rfl

/-- A call that ends a session leaves the number of its savepoints. -/
theorem ends_savepoints {call : SessionCall} {r : Result call.Answer} (hopen : s.ending = none)
    (hcall : call.isWork = false) (h : (s.call call).Converses es (r, s')) :
    ∃ ending e, s.Ends ending e es s' ∧ s'.savepoints = s.savepoints := by
  cases call with
  | work operation => cases hcall
  | commit =>
      have hs' : s'.savepoints = s.savepoints := by
        rw [Session.call, commit, whileOpen_open hopen] at h
        cases hfailure : s.failure with
        | none =>
            rw [hfailure] at h
            exact finish_savepoints h
        | some failure =>
            rw [hfailure] at h
            obtain ⟨⟨r', s''⟩, xs, ys, rfl, hfinish, hdone⟩ := Program.converses_bind.mp h
            cases (Program.converses_done.mp hdone).2
            exact (finish_savepoints hfinish :)
      rcases commit_open hopen h with ⟨-, e, hends⟩ | ⟨-, -, e, hends, -⟩
      all_goals exact ⟨_, e, hends, hs'⟩
  | abort =>
      rw [Session.call, abort, whileOpen_open hopen] at h
      obtain ⟨e, hends, -⟩ := finish_ends .aborted h
      exact ⟨_, e, hends, finish_savepoints h⟩

/-- Savepoints are numbered one after another. -/
theorem call_savepoints {call : SessionCall} {r : Result call.Answer} (h : (s.call call).Converses es (r, s')) :
    s.savepoints ≤ s'.savepoints ∧
      savepointsTaken es = List.range' (s.savepoints + 1) (s'.savepoints - s.savepoints) := by
  cases hending : s.ending with
  | some ending =>
      have hrefused := call_ended hending h
      obtain rfl : s' = s := hrefused.session
      obtain rfl : es = [] := hrefused.exchanges
      exact ⟨Nat.le_refl _, by rw [Nat.sub_self]; rfl⟩
  | none =>
      cases call with
      | work operation =>
          obtain ⟨n, hwork, rfl⟩ := (converses_perform_open hending).mp h
          rw [note_savepoints]
          exact operation.work_portable.savepointsTaken hwork
      | commit | abort =>
          obtain ⟨ending, e, hends, hs'⟩ := ends_savepoints hending rfl h
          rw [hends.savepointsTaken, hs', Nat.sub_self]
          exact ⟨Nat.le_refl _, rfl⟩

theorem Runs.savepoints (h : s.Runs steps s') : s.savepoints ≤ s'.savepoints ∧
    savepointsTaken (SessionStep.said steps) = List.range' (s.savepoints + 1) (s'.savepoints - s.savepoints) := by
  induction h with
  | nil s => exact ⟨Nat.le_refl _, by rw [Nat.sub_self]; rfl⟩
  | @cons s s₁ s' call es r steps hcall _ ih =>
      obtain ⟨hle, htaken⟩ := call_savepoints hcall
      obtain ⟨hle', htaken'⟩ := ih
      refine ⟨Nat.le_trans hle hle', ?_⟩
      rw [SessionStep.said_cons, savepointsTaken_append, htaken, htaken',
        show s₁.savepoints + 1 = s.savepoints + 1 + (s₁.savepoints - s.savepoints) by omega, List.range'_append_1]
      congr 1
      omega

/--
In a session an inquiry asks what it asks on a connection from the pool, and comes to the same, where what is said about
its savepoint succeeds. Its query is asked behind a savepoint that is released, or gone back to where the query failed
in a way that is recovered from (`Inquiry.Course`); then the inquiry succeeds. Any other failure is what the inquiry
fails with, and what the session remembers if it is the first. However a session goes on, the numbers of its savepoints
grow.
-/
theorem inquires_like_pool {operation : ObjectOperation} {i : Inquiry operation.Answer}
    (hinquiry : operation.inquiry? = some i) {s : Session} (hopen : s.ending = none) :
    (∀ (store : Store) (xs : List Exchange) (r : Result operation.Answer), store.closed = false →
      ((store.perform operation.work).run.Converses (.ofSuccess (.connect .pooled) () :: xs) r ↔
        ∃ es s', (s.perform operation.work).Converses es (r, s') ∧ Unhindered es ∧ ownExchanges es = xs)) ∧
    (∀ es r s', (s.perform operation.work).Converses es (r, s') →
      i.Course s.name s.savepoints es r s'.savepoints ∧ s'.failure = s.failure.or (remembered? r)) ∧
    (∀ p read, i.compiled = .ok (p, read) → ∃ a, read none = .ok a) ∧
    ∀ steps s', s.Runs steps s' → (savepointsTaken (SessionStep.said steps)).Pairwise (· < ·) ∧
      ∀ k ∈ savepointsTaken (SessionStep.said steps), s.savepoints < k ∧ k ≤ s'.savepoints := by
  refine ⟨fun store xs r hstore => ?_, fun es r s' h => ?_, fun p read => Inquiry.exists_read_none hinquiry,
    fun steps s' hruns => ?_⟩
  · rw [Store.converses_perform hstore, operation.work_portable.alike s.name 0 s.savepoints]
    simp only [converses_perform_open hopen]
    constructor
    · rintro ⟨es, n, hes, hown⟩
      exact ⟨es, _, ⟨n, hes, rfl⟩, hown⟩
    · rintro ⟨es, s', ⟨n, hes, -⟩, hown⟩
      exact ⟨es, n, hes, hown⟩
  · obtain ⟨n, hwork, rfl⟩ := (converses_perform_open hopen).mp h
    rw [Inquiry.work_eq hinquiry] at hwork
    rw [note_savepoints, note_failure]
    exact ⟨Inquiry.course_of_converses hwork, rfl⟩
  · obtain ⟨hle, htaken⟩ := hruns.savepoints
    rw [htaken]
    refine ⟨List.pairwise_lt_range', fun k hk => ?_⟩
    rw [List.mem_range'_1] at hk
    omega

/-- A query of a table that is missing is undone in a session, and nothing is remembered; from the pool it finds nothing. -/
theorem inquires_like_pool_findPosts :
    let step := (start "a").answered replyTableMissing findPosts
    savepointsTaken step.exchanges = [1] ∧ step.session.failure = none ∧
      ((Store.create false false none).perform (Objects.find ⟨"Post", [], none, []⟩ ⟨0, 0⟩ [] .default)).run.Converses
        (.ofSuccess (.connect .pooled) () :: ownExchanges step.exchanges) (.ok []) := by
  let operation : ObjectOperation := .find ⟨"Post", [], none, []⟩ ⟨0, 0⟩ [] .default
  let step := (start "a").answered replyTableMissing findPosts
  have hstep : ((start "a").perform operation.work).Converses step.exchanges (.ok [], step.session) :=
    Program.converses_run replyTableMissing _ ()
  obtain ⟨hpool, hcourse, -, -⟩ := @inquires_like_pool operation _ rfl (start "a") rfl
  refine ⟨rfl, (hcourse _ _ _ hstep).2, (hpool _ _ _ rfl).mpr ⟨_, _, hstep, ?_, rfl⟩⟩
  decide

end Session

end Docstore
