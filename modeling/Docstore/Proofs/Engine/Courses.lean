import Docstore.Proofs.Engine.Transactions

/-!
# Courses of transactions

What is said by an operation with a transaction, whatever fails: before the transaction it only reads, and the
transaction is committed or else rolled back (`transaction_course`). What is published is announced to the server
and carried out once at most (`publication_of_query`).
-/

namespace Docstore

/-! ## What is written -/

def Sql.CatalogStatement.writes : Sql.CatalogStatement → Bool
  | addRow _ _ _ | setEntry _ _ _ | removeFields _ _ | removeRow _ => true
  | _ => false

namespace Engine

/-- Whether a statement may change the database; what is published is not kept there. -/
def Prepared.writes : Prepared → Bool
  | catalog s => s.writes
  | objects _ | plan _ => true
  | publish _ _ => false

/-- Whether a request may change the database, other than by moving a transaction. -/
def Request.writes : Request → Bool
  | send _ (.define _) | send _ (.install _) => true
  | prepare _ p | execute _ p _ => p.writes
  | connect _ | send _ _ => false

/-- A request on a connection from the pool that changes nothing. -/
structure Request.IsReading (r : Request) : Prop where
  connection : r.connection = .pooled
  effect : r.effect = .none
  writes : r.writes = false

def Discipline.reading : Discipline := .asking Request.IsReading

theorem Operation.Follows.outside_of_reading {α : Type} {op : Operation α} (h : op.Follows .reading) :
    op.Follows .outside :=
  fun es r hes => ⟨fun e he => ((h es r hes).1 e he).effect, fun _ => trivial⟩

/-! ## Transactions -/

/-- What is said by an operation with a transaction, and whether it succeeds. -/
inductive Course : List Exchange → Bool → Prop
  | unopened {before : List Exchange} (hbefore : ∀ e ∈ before, e.request.IsReading) : Course before false
  | rolledBack {before inside : List Exchange} {start close : Exchange}
      (hbefore : ∀ e ∈ before, e.request.IsReading) (hstart : start.request = .send .pooled (.scope .start))
      (hfailed : start.failed = true → inside = []) (hinside : ∀ e ∈ inside, e.request.IsInside .pooled)
      (hclose : close.request = .send .pooled (.scope .rollback)) :
      Course (before ++ start :: inside ++ [close]) false
  | committed {before inside : List Exchange} {close : Exchange} (hbefore : ∀ e ∈ before, e.request.IsReading)
      (hinside : ∀ e ∈ inside, e.request.IsInside .pooled)
      (hclose : close.request = .send .pooled (.scope .commit)) :
      Course (before ++ begun :: inside ++ [close]) (!close.failed)

/-- Something is read first. -/
theorem Course.following {xs ys : List Exchange} {succeeds : Bool} (hxs : ∀ e ∈ xs, e.request.IsReading)
    (h : Course ys succeeds) : Course (xs ++ ys) succeeds := by
  cases h with
  | unopened hbefore => exact .unopened (List.forall_mem_append.mpr ⟨hxs, hbefore⟩)
  | rolledBack hbefore hstart hfailed hinside hclose =>
      rw [← List.append_assoc, ← List.append_assoc]
      exact .rolledBack (List.forall_mem_append.mpr ⟨hxs, hbefore⟩) hstart hfailed hinside hclose
  | committed hbefore hinside hclose =>
      rw [← List.append_assoc, ← List.append_assoc]
      exact .committed (List.forall_mem_append.mpr ⟨hxs, hbefore⟩) hinside hclose

namespace Operation

variable {α β : Type}

theorem converses_go {op : Operation α} {f : α → Operation β} {xs ys : List Exchange} {a : α} {r : Result β}
    (hxs : op.run.Converses xs (.ok a)) (hys : (f a).run.Converses ys r) : (op >>= f).run.Converses (xs ++ ys) r :=
  converses_bind.mpr (.inl ⟨a, xs, ys, rfl, hxs, hys⟩)

theorem converses_stop {op : Operation α} {f : α → Operation β} {es : List Exchange} {e : Fault}
    (h : op.run.Converses es (.error e)) : (op >>= f).run.Converses es (.error e) :=
  converses_bind.mpr (.inr ⟨e, h, rfl⟩)

/-- What comes of a command, where something is answered once it has been carried out. -/
def closing (a : α) : Except EngineFault Unit → Result α
  | .ok () => .ok a
  | .error f => .error (.ofCause (.driver f))

theorem converses_send {c : Connection} {command : Command} {es : List Exchange} {r : Result Unit} :
    (send c command).run.Converses es r ↔
      ∃ reply : Except EngineFault Unit, es = [⟨.send c command, reply⟩] ∧ r = closing () reply := by
  rw [send, converses_ask]
  refine exists_congr fun reply => and_congr_right' ?_
  rcases reply with f | ⟨⟩ <;> rfl

/-- A command is sent, and then something is answered. -/
theorem converses_closing {c : Connection} {command : Command} {a : α} {es : List Exchange} {r : Result α} :
    (do send c command; pure a : Operation α).run.Converses es r ↔
      ∃ reply : Except EngineFault Unit, es = [⟨.send c command, reply⟩] ∧ r = closing a reply := by
  rw [converses_bind]
  constructor
  · rintro (⟨u, xs, ys, rfl, hsend, hpure⟩ | ⟨f, hsend, rfl⟩)
    · obtain ⟨rfl, rfl⟩ := converses_pure.mp hpure
      obtain ⟨f | ⟨⟩, rfl, hu⟩ := converses_send.mp hsend
      · cases hu
      · exact ⟨.ok (), rfl, rfl⟩
    · obtain ⟨f' | ⟨⟩, rfl, hf⟩ := converses_send.mp hsend
      · cases hf
        exact ⟨.error f', rfl, rfl⟩
      · cases hf
  · rintro ⟨f | ⟨⟩, rfl, rfl⟩
    · exact .inr ⟨_, converses_send.mpr ⟨.error f, rfl, rfl⟩, rfl⟩
    · exact .inl ⟨(), [_], [], rfl, converses_send.mpr ⟨.ok (), rfl, rfl⟩, converses_pure.mpr ⟨rfl, rfl⟩⟩

/-- A request that failed is what an operation failed with. -/
theorem converses_send_error {c : Connection} {command : Command} {es : List Exchange} {f : Fault} :
    (send c command).run.Converses es (.error f) ↔
      ∃ fault, es = [⟨.send c command, .error fault⟩] ∧ f = .error (.ofCause (.driver fault)) := by
  rw [converses_send]
  constructor
  · rintro ⟨fault | ⟨⟩, rfl, h⟩
    · exact ⟨fault, rfl, Except.error.inj h⟩
    · cases h
  · rintro ⟨fault, rfl, rfl⟩
    exact ⟨.error fault, rfl, rfl⟩

theorem converses_undo {c : Sql.ScopeControl} {es : List Exchange} {u : Unit} :
    (undo c).Converses es u ↔ ∃ close : Exchange, close.request = .send .pooled (.scope c) ∧ es = [close] := by
  rw [undo, tell, Program.converses_bind]
  constructor
  · rintro ⟨reply, xs, ys, rfl, hxs, hys⟩
    rw [Program.converses_request.mp hxs, (Program.converses_done.mp hys).1]
    exact ⟨_, rfl, rfl⟩
  · rintro ⟨⟨request, reply⟩, hrequest, rfl⟩
    cases hrequest
    exact ⟨reply, _, [], rfl, Program.converses_request.mpr rfl, .done ()⟩

/-- What fails is followed by its cleanup. -/
theorem converses_onFailure_error {cleanup : Program Unit} {op : Operation α} {es : List Exchange} {f : Fault} :
    (onFailure cleanup op).run.Converses es (.error f) ↔
      ∃ xs ys, es = xs ++ ys ∧ op.run.Converses xs (.error f) ∧ cleanup.Converses ys () := by
  show (op.run.bind _).Converses es _ ↔ _
  rw [Program.converses_bind]
  constructor
  · rintro ⟨f' | a, xs, ys, rfl, hxs, hys⟩
    · obtain ⟨u, zs, ws, rfl, hzs, hws⟩ := Program.converses_bind.mp hys
      obtain ⟨rfl, hf⟩ := Program.converses_done.mp hws
      cases hf
      exact ⟨xs, zs, by rw [List.append_nil], hxs, hzs⟩
    · cases (Program.converses_done.mp hys).2
  · rintro ⟨xs, ys, rfl, hxs, hys⟩
    exact ⟨.error f, xs, ys, rfl, hxs, Program.converses_bind.mpr ⟨(), ys, [], by rw [List.append_nil], hys, .done _⟩⟩

/-- The ways in which a transaction fails: it does not begin, or its body fails, or it is not known to be committed. -/
inductive Unfinished (body : Operation α) : List Exchange → Fault → Prop
  | unstarted (f : EngineFault) {close : Exchange} (hclose : close.request = .send .pooled (.scope .rollback)) :
      Unfinished body [⟨.send .pooled (.scope .start), .error f⟩, close] (.error (.ofCause (.driver f)))
  | rolledBack {inside : List Exchange} {f : Fault} {close : Exchange} (hinside : body.run.Converses inside (.error f))
      (hclose : close.request = .send .pooled (.scope .rollback)) :
      Unfinished body (begun :: inside ++ [close]) f
  | uncommitted {inside : List Exchange} {a : α} (hinside : body.run.Converses inside (.ok a)) (f : EngineFault) :
      Unfinished body (begun :: inside ++ [⟨.send .pooled (.scope .commit), .error f⟩]) (.error (.ofCause (.driver f)))

theorem converses_transaction_error {body : Operation α} {es : List Exchange} {f : Fault}
    (h : (transaction body).run.Converses es (.error f)) : Unfinished body es f := by
  rcases converses_bind.mp h with ⟨a, xs, ys, rfl, hbody, hys⟩ | ⟨f', hbody, hf⟩
  · obtain ⟨_, zs, inside, rfl, hstart, hinside⟩ := converses_bind_ok.mp (converses_onFailure_ok.mp hbody)
    rcases converses_bind.mp hys with ⟨u, cs, ps, rfl, -, hpure⟩ | ⟨f', hcommit, hf⟩
    · cases (converses_pure.mp hpure).2
    · obtain ⟨fault, rfl, rfl⟩ := converses_send_error.mp hcommit
      cases hf
      rw [converses_send_ok.mp hstart]
      exact .uncommitted hinside fault
  · cases hf
    obtain ⟨zs, cs, rfl, hzs, hcleanup⟩ := converses_onFailure_error.mp hbody
    obtain ⟨close, hclose, rfl⟩ := converses_undo.mp hcleanup
    rcases converses_bind.mp hzs with ⟨u, ss, inside, rfl, hstart, hinside⟩ | ⟨f', hstart, hf⟩
    · rw [converses_send_ok.mp hstart]
      exact .rolledBack hinside hclose
    · obtain ⟨fault, rfl, rfl⟩ := converses_send_error.mp hstart
      cases hf
      exact .unstarted fault hclose

/-- A transaction is committed or rolled back, if what is said in it stays inside. -/
theorem transaction_course {body : Operation α} {es : List Exchange} {r : Result α}
    (hbody : ∀ xs r', body.run.Converses xs r' → ∀ e ∈ xs, e.request.IsInside .pooled)
    (h : (transaction body).run.Converses es r) : Course es r.isOk := by
  have hcourse : ∀ {inside : List Exchange} {a : α} (close : Exchange), body.run.Converses inside (.ok a) →
      close.request = .send .pooled (.scope .commit) → Course (begun :: inside ++ [close]) (!close.failed) :=
    fun _ hinside => .committed (List.forall_mem_nil _) (hbody _ _ hinside)
  cases r with
  | ok a =>
      obtain ⟨inside, rfl, hinside⟩ := converses_transaction_ok.mp h
      exact hcourse committed hinside rfl
  | error f =>
      cases converses_transaction_error h with
      | unstarted f hclose =>
          exact .rolledBack (List.forall_mem_nil _) rfl (fun _ => rfl) (List.forall_mem_nil _) hclose
      | rolledBack hinside hclose =>
          exact .rolledBack (List.forall_mem_nil _) rfl nofun (hbody _ _ hinside) hclose
      | uncommitted hinside f => exact hcourse ⟨.send .pooled (.scope .commit), .error f⟩ hinside rfl

end Operation

/-! ## Queries -/

theorem Operation.converses_ofResult {α : Type} {r r' : Result α} {es : List Exchange} :
    (liftM r : Operation α).run.Converses es r' ↔ es = [] ∧ r' = r := Program.converses_done

/-- A statement is refused, or its values cannot be written, or it is carried out and fails or is answered. -/
inductive Queried (c : Connection) (p : Prepared) : List Exchange → Result Answer → Prop
  | refused (f : EngineFault) : Queried c p [⟨.prepare c p, .error f⟩] (.error (.ofCause (.driver f)))
  | unwritten {types : List Wire.DataType} {f : Fault} (h : p.arguments types = .error f) :
      Queried c p [.ofSuccess (.prepare c p) types] (.error f)
  | failed {types : List Wire.DataType} {arguments : List Wire.Argument} (h : p.arguments types = .ok arguments)
      (f : EngineFault) : Queried c p [.ofSuccess (.prepare c p) types, ⟨.execute c p arguments, .error f⟩]
        (.error (.ofCause (.driver f)))
  | answered {types : List Wire.DataType} {arguments : List Wire.Argument} (h : p.arguments types = .ok arguments)
      (answer : Answer) : Queried c p
        [.ofSuccess (.prepare c p) types, .ofSuccess (.execute c p arguments) answer] (.ok answer)

theorem Operation.converses_query {c : Connection} {p : Prepared} {es : List Exchange} {r : Result Answer} :
    (query c p).run.Converses es r ↔ Queried c p es r := by
  constructor
  · intro h
    rcases converses_bind.mp h with ⟨types, xs, ys, rfl, hprepare, hrest⟩ | ⟨f, hprepare, rfl⟩
    · rw [converses_ask_ok.mp hprepare]
      rcases converses_bind.mp hrest with ⟨arguments, zs, ws, rfl, hwritten, hexecute⟩ | ⟨f, hwritten, rfl⟩
      · obtain ⟨rfl, hok⟩ := converses_ofResult.mp hwritten
        obtain ⟨reply, rfl, rfl⟩ := converses_ask.mp hexecute
        cases reply with
        | error f => exact .failed hok.symm f
        | ok answer => exact .answered hok.symm answer
      · obtain ⟨rfl, herror⟩ := converses_ofResult.mp hwritten
        exact .unwritten herror.symm
    · obtain ⟨reply, rfl, hreply⟩ := converses_ask.mp hprepare
      cases reply with
      | error f' =>
          cases hreply
          exact .refused f'
      | ok types => cases hreply
  · have hprepared : ∀ types : List Wire.DataType,
        (ask (.prepare c p)).run.Converses [.ofSuccess (.prepare c p) types] (.ok types) :=
      fun _ => converses_ask_ok.mpr rfl
    rintro (f | @⟨types, f, h⟩ | @⟨types, arguments, h, f⟩ | @⟨types, arguments, h, answer⟩)
    · exact converses_stop (converses_ask.mpr ⟨.error f, rfl, rfl⟩)
    · exact converses_go (hprepared types) (converses_stop (converses_ofResult.mpr ⟨rfl, h.symm⟩))
    · exact converses_go (hprepared types) (converses_go (converses_ofResult.mpr ⟨rfl, h.symm⟩)
        (converses_ask.mpr ⟨.error f, rfl, rfl⟩))
    · exact converses_go (hprepared types) (converses_go (converses_ofResult.mpr ⟨rfl, h.symm⟩)
        (converses_ask_ok.mpr rfl))

/-! ## Publications -/

/-- A statement on the listening connection is refused, or its values cannot be written, or it is carried out. -/
inductive Publication (p : Prepared) : List Exchange → Prop
  | refused (f : EngineFault) : Publication p [⟨.prepare .listener p, .error f⟩]
  | unwritten {types : List Wire.DataType} {f : Fault} (h : p.arguments types = .error f) :
      Publication p [.ofSuccess (.prepare .listener p) types]
  | sent {types : List Wire.DataType} {arguments : List Wire.Argument} (h : p.arguments types = .ok arguments)
      (reply : (Request.execute .listener p arguments).Reply) :
      Publication p [.ofSuccess (.prepare .listener p) types, ⟨.execute .listener p arguments, reply⟩]

/-- To query the listening connection is to publish, whatever comes of it. -/
theorem Operation.publication_of_query {p : Prepared} {es : List Exchange} {r : Result Answer}
    (h : (query .listener p).run.Converses es r) : Publication p es := by
  cases converses_query.mp h with
  | refused f => exact .refused f
  | unwritten hwritten => exact .unwritten hwritten
  | failed hwritten f => exact .sent hwritten (.error f)
  | answered hwritten answer => exact .sent hwritten (.ok answer)

theorem Publication.exists_converses {p : Prepared} {es : List Exchange} (h : Publication p es) :
    ∃ r, (Operation.query .listener p).run.Converses es r := by
  cases h with
  | refused f => exact ⟨_, Operation.converses_query.mpr (.refused f)⟩
  | unwritten h => exact ⟨_, Operation.converses_query.mpr (.unwritten h)⟩
  | sent h reply =>
      cases reply with
      | error f => exact ⟨_, Operation.converses_query.mpr (.failed h f)⟩
      | ok answer => exact ⟨_, Operation.converses_query.mpr (.answered h answer)⟩

/-! ## Answers -/

/-- A statement that is announced, carried out and answered. -/
inductive Answered (c : Connection) (p : Prepared) (answer : Answer) : List Exchange → Prop
  | mk {types : List Wire.DataType} {arguments : List Wire.Argument} (h : p.arguments types = .ok arguments) :
      Answered c p answer [.ofSuccess (.prepare c p) types, .ofSuccess (.execute c p arguments) answer]

theorem Operation.converses_query_ok {c : Connection} {p : Prepared} {es : List Exchange} {answer : Answer} :
    (query c p).run.Converses es (.ok answer) ↔ Answered c p answer es := by
  rw [converses_query]
  constructor
  · intro h
    cases h with
    | answered h _ => exact .mk h
  · rintro ⟨h⟩
    exact .answered h answer

end Engine

end Docstore
