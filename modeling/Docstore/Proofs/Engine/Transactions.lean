import Docstore.Proofs.Engine.Discipline
import Docstore.Proofs.Engine.Standing

/-!
# Operations with a transaction

An operation that carries out a transaction and succeeds has committed it. What it asks before and after is not
part of the transaction.
-/

namespace Docstore.Engine

/-- The beginning of the transaction around an operation. -/
def begun : Exchange := .ofSuccess (.send .pooled (.scope .start)) ()

/-- The end of the transaction around an operation, as a server replies to it even when it was aborted. -/
def committed : Exchange := .ofSuccess (.send .pooled (.scope .commit)) ()

/-- The discipline of what is said outside a transaction. -/
def Discipline.outside : Discipline := .asking fun r => r.effect = .none

/-- The discipline of what is said in a transaction, where each failure is undone unless it is excused. -/
def Discipline.mending (allows excused : Request → Prop) : Discipline where
  allows := allows
  orderly := Mended excused
  nil := .nil
  succeeded := .succeeded
  append := .append

/-- A conversation in which one transaction was committed. -/
structure Commits (d : Discipline) (es before inside after : List Exchange) : Prop where
  eq : es = before ++ begun :: inside ++ committed :: after
  before : ∀ e ∈ before, e.request.effect = .none
  allowed : ∀ e ∈ inside, d.allows e.request
  orderly : d.orderly inside
  after : ∀ e ∈ after, e.request.effect = .none

namespace Operation

variable {α β : Type} {d : Discipline}

theorem converses_send_ok {c : Connection} {command : Command} {es : List Exchange} {u : Unit} :
    (send c command).run.Converses es (.ok u) ↔ es = [.ofSuccess (.send c command) ()] := converses_ask_ok

theorem converses_onFailure_ok {cleanup : Program Unit} {op : Operation α} {es : List Exchange} {a : α} :
    (onFailure cleanup op).run.Converses es (.ok a) ↔ op.run.Converses es (.ok a) := by
  show (op.run.bind _).Converses es _ ↔ _
  rw [Program.converses_bind]
  constructor
  · rintro ⟨f | a', xs, ys, rfl, hxs, hys⟩
    · obtain ⟨_, _, _, -, -, hys⟩ := Program.converses_bind.mp hys
      cases (Program.converses_done.mp hys).2
    · obtain ⟨rfl, ha⟩ := Program.converses_done.mp hys
      rw [ha, List.append_nil]
      exact hxs
  · intro h
    exact ⟨.ok a, es, [], (List.append_nil es).symm, h, .done _⟩

/-- Between its beginning and its end, a transaction that succeeds consists of its body. -/
theorem converses_transaction_ok {body : Operation α} {es : List Exchange} {a : α} :
    (transaction body).run.Converses es (.ok a) ↔
      ∃ inside, es = begun :: inside ++ [committed] ∧ body.run.Converses inside (.ok a) := by
  rw [transaction, converses_bind_ok]
  constructor
  · rintro ⟨a', xs, ys, rfl, hxs, hys⟩
    obtain ⟨_, zs, inside, rfl, hstart, hinside⟩ := converses_bind_ok.mp (converses_onFailure_ok.mp hxs)
    obtain ⟨_, ends, rest, rfl, hcommit, hpure⟩ := converses_bind_ok.mp hys
    obtain ⟨rfl, ha⟩ := converses_pure.mp hpure
    cases ha
    rw [converses_send_ok.mp hstart, converses_send_ok.mp hcommit]
    exact ⟨inside, rfl, hinside⟩
  · rintro ⟨inside, rfl, hinside⟩
    refine ⟨a, begun :: inside, [committed], rfl, converses_onFailure_ok.mpr ?_, ?_⟩
    · exact converses_bind_ok.mpr ⟨(), [begun], inside, rfl, converses_send_ok.mpr rfl, hinside⟩
    · exact converses_bind_ok.mpr ⟨(), [committed], [], rfl, converses_send_ok.mpr rfl, converses_pure.mpr ⟨rfl, rfl⟩⟩

/-! ## Savepoints -/

section Savepoints

variable {allows excused : Request → Prop} {c : Connection} {es : List Exchange}

/-- Going back to a savepoint undoes an operation, however it ended. -/
def IsUndone (op : Operation α) : Prop :=
  ∀ es r back, op.run.Converses es r → back.IsReturn → Mended (fun _ => False) (es ++ [back])

/-- Goes back to a savepoint where it succeeds, and says nothing else. -/
def Returns (op : Operation α) : Prop :=
  ∀ es a, op.run.Converses es (.ok a) → ∃ back, back.IsReturn ∧ es = [back]

theorem ask_isUndone (r : Request) : (ask r).IsUndone := by
  intro es result back h hback
  obtain ⟨reply, rfl, -⟩ := converses_ask.mp h
  exact .undone hback

/-- A query stops where it fails, so that it is undone as a whole. -/
theorem query_isUndone (p : Prepared) : (query c p).IsUndone := by
  intro es result back h hback
  rcases converses_bind.mp h with ⟨types, xs, ys, rfl, hprepare, hrest⟩ | ⟨e, hprepare, -⟩
  · have hprepared : Mended (fun _ => False) xs :=
      (Follows.ask (d := .mending (fun _ => True) fun _ => False) trivial xs _ hprepare).2 ⟨types, rfl⟩
    rw [List.append_assoc]
    refine hprepared.append ?_
    rcases converses_bind.mp hrest with ⟨arguments, zs, ws, rfl, harguments, hexecute⟩ | ⟨e, harguments, -⟩
    · rw [(Program.converses_done.mp harguments).1]
      exact ask_isUndone _ _ _ _ hexecute hback
    · rw [(Program.converses_done.mp harguments).1]
      exact .succeeded hback.failed
  · exact ask_isUndone _ _ _ _ hprepare hback

theorem Returns.send {command : Command} (h : command.effect = .returns) (b : β) :
    Returns (do Operation.send c command; pure b : Operation β) := by
  intro es a hes
  obtain ⟨_, xs, ys, rfl, hsent, hpure⟩ := converses_bind_ok.mp hes
  rw [converses_send_ok.mp hsent, (converses_pure.mp hpure).1]
  exact ⟨.ofSuccess (.send c command) (), ⟨h, rfl⟩, rfl⟩

theorem Returns.throw (f : Fault) : Returns (throw f : Operation α) := by
  intro es a hes
  cases (Program.converses_done.mp hes).2

/-- Where an operation behind a savepoint failed, the whole can only succeed by going back to the savepoint. -/
theorem Follows.behind {take : Operation Unit} {op : Operation α} {next : Result α → Operation β}
    (htake : take.Follows (.mending allows fun _ => False)) (hop : op.Follows (.mending allows fun _ => False))
    (hundone : op.IsUndone) (hok : ∀ a, (next (.ok a)).Follows (.mending allows fun _ => False))
    (herror : ∀ f, (next (.error f)).Follows (.asking allows)) (hreturns : ∀ f, (next (.error f)).Returns) :
    (do take; next (← op.result)).Follows (.mending allows fun _ => False) := by
  refine htake.bind fun _ es b h => ?_
  rcases converses_bind.mp h with ⟨r, xs, ys, rfl, hresult, hys⟩ | ⟨e, hresult, -⟩
  · obtain ⟨r', hxs, hr⟩ := converses_result.mp hresult
    cases hr
    obtain ⟨hallows, horderly⟩ := hop xs r hxs
    cases r with
    | ok a =>
        obtain ⟨hallows', horderly'⟩ := hok a ys b hys
        exact ⟨List.forall_mem_append.mpr ⟨hallows, hallows'⟩,
          fun hb => Discipline.append _ (horderly ⟨a, rfl⟩) (horderly' hb)⟩
    | error f =>
        -- What failed was said last, so the return to the savepoint comes right after it.
        refine ⟨List.forall_mem_append.mpr ⟨hallows, (herror f ys b hys).1⟩, ?_⟩
        rintro ⟨b, rfl⟩
        obtain ⟨back, hback, rfl⟩ := hreturns f ys b hys
        exact hundone xs _ back hxs hback
  · obtain ⟨r', -, hr⟩ := converses_result.mp hresult
    cases hr

theorem Follows.undo {c : Sql.ScopeControl} (h : allows (.send .pooled (.scope c))) :
    Follows (.asking allows) (liftM (undo c) : Operation Unit) :=
  have htold : (Operation.undo c).Follows (.asking allows) fun _ => True :=
    (Program.Follows.request h).always.map fun _ => ⟨(), rfl, id⟩
  htold.map fun _ => ⟨.ok (), rfl, fun _ => trivial⟩

/-- An attempt that is answered has left nothing failed behind. -/
theorem Follows.attempt {savepoint : String} {command : Command} {accepts : Error → Bool}
    (hcommand : allows (.send .pooled command)) (hsavepoint : allows (.send .pooled (.scope (.savepoint savepoint))))
    (hrelease : allows (.send .pooled (.scope (.release savepoint))))
    (hback : allows (.send .pooled (.scope (.rollbackTo savepoint)))) :
    (attempt savepoint command accepts).Follows (.mending allows fun _ => False) := by
  refine .behind (.send hsavepoint) (.send hcommand) (ask_isUndone _) (fun _ => ?_) (fun f => ?_) fun f => ?_
  · exact (Follows.send hrelease).bind fun _ => .pure _
  · cases f with
    | error e => exact .ite ((Follows.send hback).bind fun _ => .pure _) ((Follows.undo hback).bind fun _ => .throw _)
    | crash => exact .throw _
  · cases f with
    | error e =>
        show Returns (if accepts e then _ else _)
        split
        · exact .send rfl _
        · intro es a hes
          obtain ⟨_, xs, ys, rfl, -, hthrow⟩ := converses_bind_ok.mp hes
          cases (Program.converses_done.mp hthrow).2
    | crash => exact .throw _

end Savepoints

/-! ## Operations with one transaction -/

/-- An operation that commits one transaction where it succeeds. -/
def Transacts (d : Discipline) (op : Operation α) : Prop :=
  ∀ es a, op.run.Converses es (.ok a) → ∃ before inside after, Commits d es before inside after

namespace Transacts

theorem transaction {body : Operation α} (h : body.Follows d) : (transaction body).Transacts d := by
  intro es a hes
  obtain ⟨inside, rfl, hinside⟩ := converses_transaction_ok.mp hes
  obtain ⟨hallowed, horderly⟩ := h inside _ hinside
  exact ⟨[], inside, [], rfl, List.forall_mem_nil _, hallowed, horderly ⟨a, rfl⟩, List.forall_mem_nil _⟩

/-- Something is asked first. -/
theorem following {op : Operation α} {f : α → Operation β} (hop : op.Follows .outside)
    (hf : ∀ a, (f a).Transacts d) : (op >>= f).Transacts d := by
  intro es b hes
  obtain ⟨a, xs, ys, rfl, hxs, hys⟩ := converses_bind_ok.mp hes
  obtain ⟨before, inside, after, h⟩ := hf a ys b hys
  refine ⟨xs ++ before, inside, after, ?_, ?_, h.allowed, h.orderly, h.after⟩
  · rw [h.eq, List.append_assoc, List.append_assoc, List.append_assoc]
  · exact List.forall_mem_append.mpr ⟨(hop xs _ hxs).1, h.before⟩

/-- Something is asked afterwards. -/
theorem followed {op : Operation α} {f : α → Operation β} (hop : op.Transacts d)
    (hf : ∀ a, (f a).Follows .outside) : (op >>= f).Transacts d := by
  intro es b hes
  obtain ⟨a, xs, ys, rfl, hxs, hys⟩ := converses_bind_ok.mp hes
  obtain ⟨before, inside, after, h⟩ := hop xs a hxs
  refine ⟨before, inside, after ++ ys, ?_, h.before, h.allowed, h.orderly, ?_⟩
  · rw [h.eq, List.append_assoc, List.cons_append]
  · exact List.forall_mem_append.mpr ⟨h.after, (hf a ys _ hys).1⟩

end Transacts

end Operation

end Docstore.Engine
