import Docstore.Proofs.Engine.Transactions
import Docstore.Store.Objects

/-!
# Work in a session

Work on objects says nothing but what belongs to the transaction of its session, and where it succeeds the
failures in it have been undone.
-/

namespace Docstore

open Docstore.Engine
open Docstore.Time (Instant)

/-- The discipline of work in a session. -/
def Engine.Discipline.inSession (name : String) : Discipline :=
  .mending (Request.IsInside (.session name)) fun _ => False

/-- Work that follows a discipline, however many savepoints were taken before. -/
def Work.Follows {α : Type} (d : Discipline) (work : Work α) : Prop :=
  ∀ n, (work.run.run n).Follows d fun (r, _) => ∃ a, r = .ok a

namespace Work.Follows

variable {α β : Type} {d : Discipline} {name : String}

theorem pure (a : α) : Follows d (pure a : Work α) := fun _ => .done _

theorem throw (f : Fault) : Follows d (throw f : Work α) := fun _ => .done _

theorem ofResult (r : Result α) : Follows d (liftM r : Work α) := fun _ => .done _

theorem bind {work : Work α} {f : α → Work β} (hwork : work.Follows d) (hf : ∀ a, (f a).Follows d) :
    (work >>= f).Follows d := by
  intro n
  refine Program.Follows.bind (hwork n) (fun (r, m) => ?_) fun (r, m) es b h hb => ?_
  · cases r with
    | ok a => exact hf a m
    | error e => exact .done _
  · cases r with
    | ok a => exact ⟨a, rfl⟩
    | error e =>
        obtain ⟨b', hb⟩ := hb
        cases (Program.converses_done.mp h).2
        cases hb

theorem ite {condition : Prop} [Decidable condition] {work work' : Work α} (h : work.Follows d)
    (h' : work'.Follows d) : (if condition then work else work').Follows d := by
  split
  · exact h
  · exact h'

theorem ofOperation {op : Operation α} (h : op.Follows d) : (ofOperation op).Follows d :=
  fun n => Program.Follows.map h fun r => ⟨(r, n), rfl, id⟩

theorem asDuplicate {work : Work α} (h : work.Follows d) : (Objects.asDuplicate work).Follows d := by
  intro n
  refine Program.Follows.map (h n) fun (r, m) => ?_
  rcases r with (e | -) | a
  · exact ⟨_, rfl, fun ⟨_, ha⟩ => nomatch ha⟩
  · exact ⟨_, rfl, fun ⟨_, ha⟩ => nomatch ha⟩
  · exact ⟨_, rfl, fun _ => ⟨a, rfl⟩⟩

/-! ## Queries in a session -/

theorem nextSavepoint : Follows d nextSavepoint := fun _ => .done _

end Work.Follows

section Session

variable {name : String} {p : Prepared}

theorem send_inSession {control : Sql.TransactionControl}
    (h : (Command.control control).effect = .none ∨ (Command.control control).effect = .returns) :
    (Operation.send (.session name) (.control control)).Follows (.inSession name) := .send ⟨rfl, h⟩

theorem query_inSession : (Operation.query (.session name) p).Follows (.inSession name) :=
  .query ⟨rfl, .inl rfl⟩ fun _ => ⟨rfl, .inl rfl⟩

/-- A query behind a savepoint leaves nothing failed behind where it is answered. -/
theorem guarded_inSession {savepoint : Nat} {accepts : Error → Bool} :
    (Work.guarded name savepoint accepts p).Follows (.inSession name) := by
  refine .behind (send_inSession (.inl rfl)) query_inSession (Operation.query_isUndone p) (fun answer => ?_)
    (fun f => ?_) fun f => ?_
  · exact (send_inSession (.inl rfl)).bind fun _ => .pure _
  · cases f with
    | error e =>
        have hback : (Operation.send (.session name) (.control (.rollbackTo savepoint))).Follows
            (.asking (Request.IsInside (.session name))) := .send ⟨rfl, .inr rfl⟩
        exact .ite (hback.bind fun _ => .pure _) (.throw _)
    | crash => exact .throw _
  · cases f with
    | error e =>
        show Operation.Returns (if accepts e then _ else _)
        split
        · exact .send rfl _
        · exact .throw _
    | crash => exact .throw _

theorem recovering_inSession {accepts : Error → Bool} :
    (Work.recovering (.session name) accepts p).Follows (.inSession name) :=
  Work.Follows.nextSavepoint.bind fun _ => .ofOperation guarded_inSession

theorem workQuery_inSession : (Work.query (.session name) p).Follows (.inSession name) :=
  .ofOperation query_inSession

theorem read_inSession : (Objects.read (.session name) p).Follows (.inSession name) :=
  recovering_inSession.bind fun _ => .pure _

end Session

/-! ## Work on objects -/

namespace Objects

variable {name : String} {schema : Schema} {now : Instant} {query : Document}

theorem insertRow_inSession {object : Document} {ignoreConflict : Bool} :
    (insertRow schema object ignoreConflict (.session name)).Follows (.inSession name) :=
  (Work.Follows.ofResult _).bind fun _ => (Work.Follows.asDuplicate workQuery_inSession).bind fun _ => .pure _

theorem create_inSession {object : Document} : (create schema object (.session name)).Follows (.inSession name) :=
  insertRow_inSession.bind fun _ => .pure _

theorem find_inSession {options : Query.FindOptions} :
    (find schema now query options (.session name)).Follows (.inSession name) :=
  (Work.Follows.ofResult _).bind fun _ => read_inSession.bind fun _ => .ofResult _

theorem estimate?_inSession {className : String} :
    (estimate? className (.session name)).Follows (.inSession name) :=
  workQuery_inSession.bind fun answer => by
    cases answer.rows with
    | nil => exact .pure none
    | cons r _ => exact (Work.Follows.ofResult _).bind fun _ => .pure _

/-- The number of the objects that match a query, where none was guessed. -/
theorem counted_inSession {stored : Schema} (guessed : Option Int) :
    Work.Follows (.inSession name) (match guessed with
      | some n => pure n
      | none => do
        let statement ← Query.count stored now query
        countIn (← read (.session name) (.objects statement))) := by
  cases guessed with
  | some n => exact .pure n
  | none => exact (Work.Follows.ofResult _).bind fun _ => read_inSession.bind fun _ => .ofResult _

theorem count_inSession {guess : Bool} : (count schema now query guess (.session name)).Follows (.inSession name) :=
  .ite (estimate?_inSession.bind counted_inSession) ((Work.Follows.pure none).bind counted_inSession)

theorem distinct_inSession {field : String} :
    (distinct schema now field query (.session name)).Follows (.inSession name) :=
  (Work.Follows.ofResult _).bind fun _ => read_inSession.bind fun _ => (Work.Follows.ofResult _).bind fun _ => .pure _

theorem aggregate_inSession {stages : List Json} {explain : Bool} :
    (aggregate schema stages explain (.session name)).Follows (.inSession name) :=
  (Work.Follows.ofResult _).bind fun _ => read_inSession.bind fun _ => .ofResult _

theorem update_inSession {update : Document} :
    (Objects.update schema now query update (.session name)).Follows (.inSession name) :=
  (Work.Follows.ofResult _).bind fun _ => .ite find_inSession <|
    (Work.Follows.ofResult _).bind fun _ => (Work.Follows.asDuplicate workQuery_inSession).bind fun _ => .ofResult _

theorem updateFirst_inSession {update : Document} :
    (updateFirst schema now query update (.session name)).Follows (.inSession name) :=
  update_inSession.bind fun _ => .pure _

theorem upsert_inSession {update : Document} :
    (upsert schema now query update (.session name)).Follows (.inSession name) :=
  insertRow_inSession.bind fun _ => .ite (update_inSession.bind fun _ => .pure _) (.pure _)

theorem delete_inSession : (delete schema now query (.session name)).Follows (.inSession name) := by
  refine (Work.Follows.ofResult _).bind fun _ => recovering_inSession.bind fun answer => ?_
  cases answer with
  | none => exact .pure ()
  | some answer => exact (Work.Follows.ofResult _).bind fun _ => .ite (.throw _) (.pure _)

end Objects

/-- The operations on objects. -/
inductive ObjectOperation
  | create (schema : Schema) (object : Document)
  | find (schema : Schema) (now : Instant) (query : Document) (options : Query.FindOptions)
  | count (schema : Schema) (now : Instant) (query : Document) (guess : Bool)
  | distinct (schema : Schema) (now : Instant) (field : String) (query : Document)
  | aggregate (schema : Schema) (stages : List Json) (explain : Bool)
  | update (schema : Schema) (now : Instant) (query change : Document)
  | updateFirst (schema : Schema) (now : Instant) (query change : Document)
  | upsert (schema : Schema) (now : Instant) (query change : Document)
  | delete (schema : Schema) (now : Instant) (query : Document)

namespace ObjectOperation

abbrev Answer : ObjectOperation → Type
  | create _ _ => Document
  | find _ _ _ _ | aggregate _ _ _ | update _ _ _ _ => List Document
  | count _ _ _ _ => Int
  | distinct _ _ _ _ => List Json
  | updateFirst _ _ _ _ => Option Document
  | upsert _ _ _ _ | delete _ _ _ => Unit

def work : (operation : ObjectOperation) → Place → Work operation.Answer
  | create schema object => Objects.create schema object
  | find schema now query options => Objects.find schema now query options
  | count schema now query guess => Objects.count schema now query guess
  | distinct schema now field query => Objects.distinct schema now field query
  | aggregate schema stages explain => Objects.aggregate schema stages explain
  | update schema now query change => Objects.update schema now query change
  | updateFirst schema now query change => Objects.updateFirst schema now query change
  | upsert schema now query change => Objects.upsert schema now query change
  | delete schema now query => Objects.delete schema now query

theorem work_inSession (operation : ObjectOperation) (name : String) :
    (operation.work (.session name)).Follows (.inSession name) := by
  cases operation with
  | create schema object => exact Objects.create_inSession
  | find schema now query options => exact Objects.find_inSession
  | count schema now query guess => exact Objects.count_inSession
  | distinct schema now field query => exact Objects.distinct_inSession
  | aggregate schema stages explain => exact Objects.aggregate_inSession
  | update schema now query change => exact Objects.update_inSession
  | updateFirst schema now query change => exact Objects.updateFirst_inSession
  | upsert schema now query change => exact Objects.upsert_inSession
  | delete schema now query => exact Objects.delete_inSession

end ObjectOperation

end Docstore
