import Docstore.Proofs.Engine.Courses
import Docstore.Proofs.Store.Sessions

/-!
# Work that succeeds

What was asked and answered where work on objects has succeeded, part by part, on a connection from the pool
(`Store.converses_perform_ok`) and in a session (`Session.converses_perform_ok`).
-/

namespace Docstore

open Docstore.Engine

/-- Work that succeeds with a value, with the savepoints that were taken before and are taken then. -/
def Work.Succeeds {α : Type} (work : Work α) (n : Nat) (es : List Exchange) (a : α) (m : Nat) : Prop :=
  (work.run.run n).Converses es (.ok a, m)

namespace Work

variable {α β : Type} {n m : Nat} {es : List Exchange} {a : α} {b : β}

@[simp] theorem succeeds_pure {a' : α} : (pure a : Work α).Succeeds n es a' m ↔ es = [] ∧ a' = a ∧ m = n := by
  rw [Succeeds]
  show (Program.done (Except.ok a, n)).Converses es (.ok a', m) ↔ _
  rw [Program.converses_done, Prod.mk.injEq, Except.ok.injEq]

@[simp] theorem succeeds_ofResult {r : Result α} : (liftM r : Work α).Succeeds n es a m ↔ es = [] ∧ r = .ok a ∧ m = n := by
  rw [Succeeds]
  show (Program.done (r, n)).Converses es (.ok a, m) ↔ _
  rw [Program.converses_done, Prod.mk.injEq]
  exact and_congr_right' (and_congr_left' eq_comm)

@[simp] theorem succeeds_ofOperation {op : Operation α} :
    (ofOperation op).Succeeds n es a m ↔ op.run.Converses es (.ok a) ∧ m = n := by
  rw [Succeeds]
  show (op.run.bind _).Converses es (Except.ok a, m) ↔ _
  rw [Program.converses_map fun _ => rfl]
  simp only [Prod.mk.injEq]
  constructor
  · rintro ⟨r, h, rfl, rfl⟩
    exact ⟨h, rfl⟩
  · rintro ⟨h, rfl⟩
    exact ⟨Except.ok a, h, rfl, rfl⟩

theorem succeeds_bind {work : Work α} {f : α → Work β} :
    (work >>= f).Succeeds n es b m ↔
      ∃ a k xs ys, es = xs ++ ys ∧ work.Succeeds n xs a k ∧ (f a).Succeeds k ys b m := by
  rw [Succeeds]
  show ((work.run.run n).bind _).Converses es (Except.ok b, m) ↔ _
  rw [Program.converses_bind]
  constructor
  · rintro ⟨⟨e | a, k⟩, xs, ys, rfl, hxs, hys⟩
    · cases (Program.converses_done.mp hys).2
    · exact ⟨a, k, xs, ys, rfl, hxs, hys⟩
  · rintro ⟨a, k, xs, ys, rfl, hxs, hys⟩
    exact ⟨(Except.ok a, k), xs, ys, rfl, hxs, hys⟩

/-- A result is at hand before anything is said. -/
@[simp] theorem succeeds_ofResult_bind {r : Result α} {f : α → Work β} :
    ((liftM r : Work α) >>= f).Succeeds n es b m ↔ ∃ a, r = .ok a ∧ (f a).Succeeds n es b m := by
  rw [succeeds_bind]
  constructor
  · rintro ⟨a, k, xs, ys, rfl, hr, h⟩
    obtain ⟨rfl, hok, rfl⟩ := succeeds_ofResult.mp hr
    exact ⟨a, hok, h⟩
  · rintro ⟨a, hr, h⟩
    exact ⟨a, n, [], es, rfl, succeeds_ofResult.mpr ⟨rfl, hr, rfl⟩, h⟩

/-- Nothing is said once the last answer is at hand. -/
theorem succeeds_bind_ofResult {work : Work α} {f : α → Result β} :
    (work >>= fun a => liftM (f a)).Succeeds n es b m ↔ ∃ a, work.Succeeds n es a m ∧ f a = .ok b := by
  rw [succeeds_bind]
  constructor
  · rintro ⟨a, k, xs, ys, rfl, h, hf⟩
    obtain ⟨rfl, hok, rfl⟩ := succeeds_ofResult.mp hf
    exact ⟨a, by rwa [List.append_nil], hok⟩
  · rintro ⟨a, h, hf⟩
    exact ⟨a, m, es, [], (List.append_nil es).symm, h, succeeds_ofResult.mpr ⟨rfl, hf, rfl⟩⟩

theorem succeeds_bind_pure {work : Work α} {f : α → β} :
    (work >>= fun a => pure (f a)).Succeeds n es b m ↔ ∃ a, work.Succeeds n es a m ∧ f a = b := by
  refine (succeeds_bind_ofResult (f := fun a => .ok (f a))).trans (exists_congr fun a => ?_)
  rw [Except.ok.injEq]

@[simp] theorem succeeds_asDuplicate {work : Work α} :
    (Objects.asDuplicate work).Succeeds n es a m ↔ work.Succeeds n es a m := by
  rw [Succeeds]
  show ((work.run.run n).bind _).Converses es (Except.ok a, m) ↔ _
  rw [Program.converses_bind]
  constructor
  · rintro ⟨⟨(e | -) | a, k⟩, xs, ys, rfl, hxs, hys⟩
    all_goals
      obtain ⟨rfl, hpair⟩ := Program.converses_done.mp hys
      cases hpair
    rwa [List.append_nil]
  · intro h
    exact ⟨(Except.ok a, m), es, [], (List.append_nil es).symm, h, .done _⟩

@[simp] theorem succeeds_query {place : Place} {p : Prepared} {answer : Answer} :
    (Work.query place p).Succeeds n es answer m ↔ Answered place.connection p answer es ∧ m = n := by
  rw [Work.query, succeeds_ofOperation, Operation.converses_query_ok]

end Work

/-! ## Places of work -/

section Places

variable {α : Type} {work : Place → Work α} {es : List Exchange} {a : α}

/-- Work on a connection from the pool succeeds where there is one. -/
theorem Store.converses_perform_ok {store : Store} :
    (store.perform work).run.Converses es (.ok a) ↔
      store.closed = false ∧
        ∃ rest, es = .ofSuccess (.connect .pooled) () :: rest ∧ ∃ n, (work .pooled).Succeeds 0 rest a n := by
  rw [perform, Operation.converses_bind_ok]
  constructor
  · rintro ⟨u, xs, ys, rfl, hconnect, hys⟩
    obtain ⟨hclosed, rfl⟩ := Store.converses_connect_ok.mp hconnect
    obtain ⟨⟨r, n⟩, hwork, rfl⟩ := (Program.converses_map fun _ => rfl).mp hys
    exact ⟨hclosed, ys, rfl, n, hwork⟩
  · rintro ⟨hclosed, rest, rfl, n, hwork⟩
    exact ⟨(), [_], rest, rfl, Store.converses_connect_ok.mpr ⟨hclosed, rfl⟩,
      (Program.converses_map fun _ => rfl).mpr ⟨(.ok a, n), hwork, rfl⟩⟩

/-- Work in a session succeeds while the session is open. -/
theorem Session.converses_perform_ok {session : Session} :
    (∃ session', (session.perform work).Converses es (.ok a, session')) ↔
      session.ending = none ∧ ∃ n, (work (.session session.name)).Succeeds session.savepoints es a n := by
  constructor
  · rintro ⟨session', h⟩
    cases hending : session.ending with
    | some ending => cases (converses_whileOpen_ended hending h).2.1
    | none =>
        obtain ⟨n, hwork, -⟩ := (converses_perform_open hending).mp h
        exact ⟨rfl, n, hwork⟩
  · rintro ⟨hopen, n, hwork⟩
    exact ⟨_, (converses_perform_open hopen).mpr ⟨n, hwork, rfl⟩⟩

end Places

end Docstore
