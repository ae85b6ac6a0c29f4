import Docstore.Proofs.Engine.Conversation

/-!
# Where a transaction stands

What a server knows of the transaction on a connection. A failed statement aborts the transaction, and it stays
aborted until it is taken back to a savepoint. So a transaction in which each failure is undone at once still
runs at its end (`Mended.run_eq`).
-/

namespace Docstore.Engine

/-! ## Effects -/

/-- What a request that succeeds does to the transaction on its connection. -/
inductive Effect
  | begins
  | ends
  /-- The transaction goes back to a savepoint. -/
  | returns
  | none
deriving DecidableEq, Repr

def Command.effect : Command → Effect
  | control .start | scope .start => .begins
  | control .commit | control .rollback | scope .commit | scope .rollback => .ends
  | control (.rollbackTo _) | scope (.rollbackTo _) => .returns
  | _ => .none

namespace Request

def connection : Request → Connection
  | connect c | send c _ | prepare c _ | execute c _ _ => c

def effect : Request → Effect
  | send _ command => command.effect
  | _ => .none

/-- A request on a connection that neither begins nor ends a transaction there. -/
structure IsInside (c : Connection) (r : Request) : Prop where
  connection : r.connection = c
  effect : r.effect = .none ∨ r.effect = .returns

end Request

/-! ## Standings -/

inductive Standing
  /-- There is no transaction. -/
  | idle
  | running
  | aborted
deriving DecidableEq, Repr

namespace Standing

variable {c : Connection} {s : Standing} {e : Exchange} {es : List Exchange}

def fail : Standing → Standing
  | idle => idle
  | _ => aborted

def succeed : Effect → Standing → Standing
  | .begins, idle => running
  | .returns, aborted => running
  | .ends, _ => idle
  | _, s => s

/-- Where a transaction stands after a request on its connection. -/
def after (s : Standing) (e : Exchange) : Standing := if e.failed then s.fail else s.succeed e.request.effect

/-- Where the transaction on a connection stands after a conversation, of which other connections see nothing. -/
def run (c : Connection) (s : Standing) (es : List Exchange) : Standing :=
  es.foldl (fun s e => if e.request.connection = c then s.after e else s) s

@[simp] theorem run_nil : run c s [] = s := rfl

theorem run_append (xs ys : List Exchange) : run c s (xs ++ ys) = run c (run c s xs) ys := List.foldl_append

theorem run_cons_of_eq (h : e.request.connection = c) : run c s (e :: es) = run c (s.after e) es := by
  rw [run, List.foldl_cons, if_pos h]
  rfl

/-- What is sent and succeeds has its effect. -/
theorem run_sent (command : Command) :
    run c s (.ofSuccess (.send c command) () :: es) = run c (s.succeed command.effect) es :=
  run_cons_of_eq (by rfl)

theorem after_of_none (hfailed : e.failed = false) (heffect : e.request.effect = .none) : s.after e = s := by
  rw [after, hfailed, heffect]
  rfl

theorem after_of_returns (hfailed : e.failed = false) (heffect : e.request.effect = .returns) (h : s ≠ .idle) :
    s.after e = .running := by
  rw [after, hfailed, heffect]
  cases s with
  | idle => exact absurd rfl h
  | running | aborted => rfl

theorem after_of_ends (hfailed : e.failed = false) (heffect : e.request.effect = .ends) : s.after e = .idle := by
  rw [after, hfailed, heffect]
  cases s <;> rfl

theorem after_of_failed (hfailed : e.failed = true) (h : s ≠ .idle) : s.after e = .aborted := by
  rw [after, hfailed]
  cases s with
  | idle => exact absurd rfl h
  | running | aborted => rfl

theorem idle_after (h : e.request.effect ≠ .begins) : idle.after e = .idle := by
  rw [after]
  split
  · rfl
  · cases heffect : e.request.effect with
    | begins => exact absurd heffect h
    | ends | returns | none => rfl

/-- Nothing happens to a transaction that has not begun. -/
theorem run_idle (h : ∀ e ∈ es, e.request.effect ≠ .begins) : run c .idle es = .idle := by
  induction es with
  | nil => rfl
  | cons e es ih =>
      have htail : run c .idle es = .idle := ih fun e' he' => h e' (.tail _ he')
      by_cases hc : e.request.connection = c
      · rw [run_cons_of_eq hc, idle_after (h e (.head _)), htail]
      · rw [run, List.foldl_cons, if_neg hc]
        exact htail

/-- An aborted transaction stays so unless it is taken back to a savepoint. -/
theorem run_aborted (h : ∀ e ∈ es, e.request.connection = c ∧ e.request.effect = .none) :
    run c .aborted es = .aborted := by
  induction es with
  | nil => rfl
  | cons e es ih =>
      obtain ⟨hc, heffect⟩ := h e (.head _)
      have hafter : aborted.after e = .aborted := by
        cases hfailed : e.failed with
        | true => exact after_of_failed hfailed (by decide)
        | false => exact after_of_none hfailed heffect
      rw [run_cons_of_eq hc, hafter]
      exact ih fun e' he' => h e' (.tail _ he')

/-- Without a savepoint, a transaction runs on only if nothing fails. -/
theorem run_running_iff (h : ∀ e ∈ es, e.request.connection = c ∧ e.request.effect = .none) :
    run c .running es = .running ↔ ∀ e ∈ es, e.failed = false := by
  induction es with
  | nil => simp
  | cons e es ih =>
      obtain ⟨hc, heffect⟩ := h e (.head _)
      have htail : ∀ e' ∈ es, e'.request.connection = c ∧ e'.request.effect = .none :=
        fun e' he' => h e' (.tail _ he')
      rw [run_cons_of_eq hc, List.forall_mem_cons]
      cases hfailed : e.failed with
      | true =>
          rw [after_of_failed hfailed (by decide), run_aborted htail]
          simp
      | false =>
          rw [after_of_none hfailed heffect, ih htail]
          simp

end Standing

/-! ## Failures that are undone -/

/-- Goes back to a savepoint, and succeeds. -/
structure Exchange.IsReturn (e : Exchange) : Prop where
  effect : e.request.effect = .returns
  failed : e.failed = false

/--
Each failure is undone: the next thing that happens is a return to a savepoint. Failures of requests that are
excused need not be.
-/
def Mended (excused : Request → Prop) (es : List Exchange) : Prop :=
  ∀ before e after, es = before ++ e :: after → e.failed = true → ¬ excused e.request →
    ∃ back rest, after = back :: rest ∧ back.IsReturn

namespace Mended

variable {excused : Request → Prop} {c : Connection} {e : Exchange} {es xs ys : List Exchange}

theorem nil : Mended excused [] := by
  intro before e after h
  cases before <;> cases h

theorem succeeded (h : e.failed = false) : Mended excused [e] := by
  intro before e' after he hfailed
  cases before with
  | nil =>
      cases he
      rw [h] at hfailed
      cases hfailed
  | cons x before => cases before <;> cases he

theorem excuse (h : excused e.request) : Mended excused [e] := by
  intro before e' after he _ hexcused
  cases before with
  | nil =>
      cases he
      exact absurd h hexcused
  | cons x before => cases before <;> cases he

theorem undone {back : Exchange} (h : back.IsReturn) : Mended excused [e, back] := by
  intro before e' after he hfailed _
  cases before with
  | nil =>
      cases he
      exact ⟨back, [], rfl, h⟩
  | cons x before =>
      cases before with
      | nil =>
          cases he
          rw [h.failed] at hfailed
          cases hfailed
      | cons y before => cases before <;> cases he

theorem append (hxs : Mended excused xs) (hys : Mended excused ys) : Mended excused (xs ++ ys) := by
  intro before e after he hfailed hexcused
  obtain ⟨front, hbefore, hys'⟩ | ⟨front, hxs', hafter⟩ := List.append_eq_append_iff.mp he
  · exact hys front e after hys' hfailed hexcused
  · cases front with
    | nil =>
        rw [List.nil_append] at hafter
        exact hys [] e after hafter.symm hfailed hexcused
    | cons x front =>
        cases hafter
        obtain ⟨back, rest, rfl, hback⟩ := hxs before e front hxs' hfailed hexcused
        exact ⟨back, rest ++ ys, rfl, hback⟩

theorem of_append (xs : List Exchange) (h : Mended excused (xs ++ ys)) : Mended excused ys :=
  fun before e after he => h (xs ++ before) e after (by rw [he, List.append_assoc])

/-- A transaction whose failures are all undone runs on. -/
theorem run_eq : (es : List Exchange) → Mended (fun _ => False) es → (∀ e ∈ es, e.request.IsInside c) →
    Standing.run c .running es = .running
  | [], _, _ => rfl
  | e :: es, h, hinside => by
      obtain ⟨hc, heffect⟩ := hinside e (.head _)
      rw [Standing.run_cons_of_eq hc]
      cases hfailed : e.failed with
      | false =>
          have hafter : Standing.running.after e = .running := by
            rcases heffect with heffect | heffect
            · exact Standing.after_of_none hfailed heffect
            · exact Standing.after_of_returns hfailed heffect (by decide)
          rw [hafter]
          exact run_eq es (of_append [e] h) fun e' he' => hinside e' (.tail _ he')
      | true =>
          obtain ⟨back, rest, rfl, hback⟩ := h [] e es rfl hfailed not_false
          have hinside' : back.request.IsInside c := hinside back (.tail _ (.head _))
          rw [Standing.after_of_failed hfailed (by decide), Standing.run_cons_of_eq hinside'.connection,
            Standing.after_of_returns hback.failed hback.effect (by decide)]
          exact run_eq rest (of_append [e, back] h) fun e' he' => hinside e' (.tail _ (.tail _ he'))
  termination_by es => es.length

/-- Where nothing goes back to a savepoint, only excused requests have failed. -/
theorem excused_of_failed (h : Mended excused es) (hreturns : ∀ e ∈ es, e.request.effect ≠ .returns)
    (he : e ∈ es) (hfailed : e.failed = true) : excused e.request := by
  refine Classical.byContradiction fun hexcused => ?_
  obtain ⟨before, after, rfl⟩ := List.append_of_mem he
  obtain ⟨back, rest, rfl, hback⟩ := h before e after rfl hfailed hexcused
  exact hreturns back (by simp) hback.effect

end Mended

end Docstore.Engine
