import Docstore.Proofs.Engine.Courses

/-!
# Attempts

What is said where a command is attempted behind a savepoint (`converses_attempt`), and which operations succeed where
everything that they ask does (`Prevails`).
-/

namespace Docstore.Engine

/-- Nothing stops at an exchange that has succeeded, unless the values of the statement that it announces cannot be written. -/
def Exchange.GoesOn : Exchange → Prop
  | ⟨.prepare _ p, .ok types⟩ => ∃ arguments, p.arguments types = .ok arguments
  | ⟨_, .ok _⟩ => True
  | ⟨_, .error _⟩ => False

instance : DecidablePred Exchange.GoesOn
  | ⟨.prepare _ p, .ok types⟩ =>
    match h : p.arguments types with
    | .ok arguments => .isTrue ⟨arguments, h⟩
    | .error _ => .isFalse fun ⟨_, h'⟩ => nomatch h.symm.trans h'
  | ⟨.connect _, .ok _⟩ | ⟨.send _ _, .ok _⟩ | ⟨.execute _ _ _, .ok _⟩ => .isTrue trivial
  | ⟨.prepare _ _, .error _⟩ | ⟨.connect _, .error _⟩ | ⟨.send _ _, .error _⟩ | ⟨.execute _ _ _, .error _⟩ => .isFalse id

/--
A command behind a savepoint, and what comes of it. Once the savepoint is taken the command is sent; then the savepoint
is released, or gone back to where the command has failed. That failure is answered if it is accepted.
-/
inductive Attempted (savepoint : String) (command : Command) (accepts : Error → Bool) :
    List Exchange → Result (Option Error) → Prop
  | untaken (f : EngineFault) : Attempted savepoint command accepts
      [⟨.send .pooled (.scope (.savepoint savepoint)), .error f⟩] (.error (.ofCause (.driver f)))
  | done (reply : Except EngineFault Unit) : Attempted savepoint command accepts
      [.ofSuccess (.send .pooled (.scope (.savepoint savepoint))) (), .ofSuccess (.send .pooled command) (),
        ⟨.send .pooled (.scope (.release savepoint)), reply⟩] (Operation.closing none reply)
  | refused {f : EngineFault} (h : accepts (.ofCause (.driver f)) = true) (reply : Except EngineFault Unit) :
      Attempted savepoint command accepts
        [.ofSuccess (.send .pooled (.scope (.savepoint savepoint))) (), ⟨.send .pooled command, .error f⟩,
          ⟨.send .pooled (.scope (.rollbackTo savepoint)), reply⟩]
        (Operation.closing (some (.ofCause (.driver f))) reply)
  | failed {f : EngineFault} (h : accepts (.ofCause (.driver f)) = false) (reply : Except EngineFault Unit) :
      Attempted savepoint command accepts
        [.ofSuccess (.send .pooled (.scope (.savepoint savepoint))) (), ⟨.send .pooled command, .error f⟩,
          ⟨.send .pooled (.scope (.rollbackTo savepoint)), reply⟩] (.error (.ofCause (.driver f)))

namespace Operation

variable {α β : Type}

/-! ## Operations that go on -/

/-- An operation that succeeds unless something stops it, where some exchanges are excused from stopping anything. -/
def Prevails (excused : Exchange → Prop) (op : Operation α) : Prop :=
  ∀ es r, op.run.Converses es r → (∀ e ∈ es, e.GoesOn ∨ excused e) → ∃ a, r = .ok a

namespace Prevails

variable {excused : Exchange → Prop}

theorem pure (a : α) : Prevails excused (pure a : Operation α) :=
  fun _ _ hes _ => ⟨a, (converses_pure.mp hes).2⟩

theorem bind {op : Operation α} {f : α → Operation β} (hop : op.Prevails excused)
    (hf : ∀ a, (f a).Prevails excused) : (op >>= f).Prevails excused := by
  intro es r hes hgoes
  rcases converses_bind.mp hes with ⟨a, xs, ys, rfl, -, hys⟩ | ⟨e, hxs, -⟩
  · exact hf a ys r hys (List.forall_mem_append.mp hgoes).2
  · obtain ⟨a, ha⟩ := hop es _ hxs hgoes
    cases ha

theorem ask {r : Request} (h : ∀ reply, ¬excused ⟨r, reply⟩) : (ask r).Prevails excused := by
  intro es result hes hgoes
  obtain ⟨reply, rfl, rfl⟩ := converses_ask.mp hes
  have hreply := (hgoes _ (.head _)).resolve_right (h reply)
  cases reply with
  | ok a => exact ⟨a, rfl⟩
  | error f => cases r <;> cases hreply

theorem query {c : Connection} {p : Prepared} (hprepare : ∀ reply, ¬excused ⟨.prepare c p, reply⟩)
    (hexecute : ∀ arguments reply, ¬excused ⟨.execute c p arguments, reply⟩) : (query c p).Prevails excused := by
  intro es r hes hgoes
  cases converses_query.mp hes with
  | refused f => cases (hgoes _ (.head _)).resolve_right (hprepare _)
  | unwritten h =>
      obtain ⟨arguments, harguments⟩ := (hgoes _ (.head _)).resolve_right (hprepare _)
      cases h.symm.trans harguments
  | failed h f => cases (hgoes _ (.tail _ (.head _))).resolve_right (hexecute _ _)
  | answered h answer => exact ⟨answer, rfl⟩

theorem send {c : Connection} {command : Command} (h : ∀ reply, ¬excused ⟨.send c command, reply⟩) :
    (send c command).Prevails excused := ask h

theorem forM {xs : List α} {f : α → Operation Unit} (h : ∀ x, (f x).Prevails excused) :
    (xs.forM f).Prevails excused := by
  induction xs with
  | nil => exact pure ()
  | cons x xs ih => exact (h x).bind fun _ => ih

/-- A transaction is finished if its body is. -/
theorem transaction {body : Operation α} (hbody : body.Prevails excused)
    (hscope : ∀ c reply, ¬excused ⟨.send .pooled (.scope c), reply⟩) : (transaction body).Prevails excused := by
  intro es r hes hgoes
  cases r with
  | ok a => exact ⟨a, rfl⟩
  | error f =>
      cases converses_transaction_error hes with
      | unstarted f hclose => cases (hgoes _ (.head _)).resolve_right (hscope _ _)
      | rolledBack hinside hclose =>
          have hinside' := fun e he => hgoes e (.tail _ (List.mem_append_left _ he))
          obtain ⟨a, ha⟩ := hbody _ _ hinside hinside'
          cases ha
      | uncommitted hinside f =>
          have hcommit := hgoes _ (List.mem_append_right _ (List.mem_singleton_self _))
          cases hcommit.resolve_right (hscope _ _)

end Prevails

/-! ## Commands behind savepoints -/

theorem converses_undone {c : Sql.ScopeControl} {es : List Exchange} {r : Result Unit} :
    (liftM (undo c) : Operation Unit).run.Converses es r ↔
      ∃ reply : Except EngineFault Unit, es = [⟨.send .pooled (.scope c), reply⟩] ∧ r = .ok () := by
  show ((undo c).bind fun u => .done (.ok u)).Converses es r ↔ _
  rw [Program.converses_map fun _ => rfl]
  simp only [converses_undo]
  constructor
  · rintro ⟨u, ⟨⟨request, reply⟩, hrequest, rfl⟩, rfl⟩
    cases hrequest
    exact ⟨reply, rfl, rfl⟩
  · rintro ⟨reply, rfl, rfl⟩
    exact ⟨(), ⟨_, rfl, rfl⟩, rfl⟩

theorem converses_attempt {savepoint : String} {command : Command} {accepts : Error → Bool} {es : List Exchange}
    {r : Result (Option Error)} (h : (attempt savepoint command accepts).run.Converses es r) :
    Attempted savepoint command accepts es r := by
  rcases converses_bind.mp h with ⟨u, xs, ys, rfl, hsave, hrest⟩ | ⟨f, hsave, rfl⟩
  · rw [converses_send_ok.mp hsave]
    rcases converses_bind.mp hrest with ⟨r', zs, ws, rfl, hresult, hclose⟩ | ⟨f, hresult, -⟩
    · obtain ⟨r'', hsend, hr⟩ := converses_result.mp hresult
      cases hr
      obtain ⟨f | ⟨⟩, rfl, rfl⟩ := converses_send.mp hsend
      · cases haccepts : accepts (.ofCause (.driver f)) with
        | true =>
            simp only [closing, Fault.ofCause, haccepts, if_true] at hclose
            obtain ⟨reply, rfl, rfl⟩ := converses_closing.mp hclose
            exact .refused haccepts reply
        | false =>
            simp only [closing, Fault.ofCause, haccepts] at hclose
            rcases converses_bind.mp hclose with ⟨u, vs, ts, rfl, hundo, hthrow⟩ | ⟨f', hundo, -⟩
            · obtain ⟨reply, rfl, -⟩ := converses_undone.mp hundo
              obtain ⟨rfl, rfl⟩ := Program.converses_done.mp hthrow
              exact .failed haccepts reply
            · obtain ⟨reply, -, hr⟩ := converses_undone.mp hundo
              cases hr
      · obtain ⟨reply, rfl, rfl⟩ := converses_closing.mp hclose
        exact .done reply
    · obtain ⟨r', -, hr⟩ := converses_result.mp hresult
      cases hr
  · obtain ⟨fault, rfl, hf⟩ := converses_send_error.mp hsave
    cases hf
    exact .untaken fault

theorem converses_attempt_ok {savepoint : String} {command : Command} {accepts : Error → Bool} {es : List Exchange}
    {failure : Option Error} (h : (attempt savepoint command accepts).run.Converses es (.ok failure)) :
    (failure = none ∧ es = [.ofSuccess (.send .pooled (.scope (.savepoint savepoint))) (),
        .ofSuccess (.send .pooled command) (), .ofSuccess (.send .pooled (.scope (.release savepoint))) ()]) ∨
      ∃ f, accepts (.ofCause (.driver f)) = true ∧ failure = some (.ofCause (.driver f)) ∧
        es = [.ofSuccess (.send .pooled (.scope (.savepoint savepoint))) (), ⟨.send .pooled command, .error f⟩,
          .ofSuccess (.send .pooled (.scope (.rollbackTo savepoint))) ()] := by
  generalize hr : Except.ok failure = r at h
  cases converses_attempt h with
  | untaken f => cases hr
  | failed haccepts reply => cases hr
  | done reply =>
      rcases reply with f | ⟨⟩
      · cases hr
      · cases hr
        exact .inl ⟨rfl, rfl⟩
  | @refused f haccepts reply =>
      rcases reply with f' | ⟨⟩
      · cases hr
      · cases hr
        exact .inr ⟨f, haccepts, rfl, rfl⟩

theorem Prevails.attempt {excused : Exchange → Prop} {savepoint : String} {command : Command} {accepts : Error → Bool}
    (hscope : ∀ c reply, ¬excused ⟨.send .pooled (.scope c), reply⟩)
    (hcommand : ∀ f, excused ⟨.send .pooled command, .error f⟩ → accepts (.ofCause (.driver f)) = true) :
    (attempt savepoint command accepts).Prevails excused := by
  intro es r hes hgoes
  have hclosing : ∀ {c : Sql.ScopeControl} {reply : Except EngineFault Unit} {failure : Option Error},
      (Exchange.GoesOn ⟨.send .pooled (.scope c), reply⟩ ∨ excused ⟨.send .pooled (.scope c), reply⟩) →
        ∃ a, closing failure reply = .ok a := by
    intro c reply failure h
    rcases reply with f | ⟨⟩
    · cases h.resolve_right (hscope _ _)
    · exact ⟨_, rfl⟩
  cases converses_attempt hes with
  | untaken f => cases (hgoes _ (.head _)).resolve_right (hscope _ _)
  | done reply | refused _ reply => exact hclosing (hgoes _ (.tail _ (.tail _ (.head _))))
  | failed haccepts reply =>
      have hexcused := (hgoes _ (.tail _ (.head _))).resolve_left id
      rw [hcommand _ hexcused] at haccepts
      cases haccepts

end Operation

end Docstore.Engine
