import Docstore.Engine.Operation

/-!
# Conversations

What a program asks and what it is replied, whatever it is that replies. To carry a program out is to have one
of its conversations (`converses_run`), so what holds of all conversations holds of every run.
-/

namespace Docstore.Engine

/-- A request and what it was replied with. -/
structure Exchange where
  request : Request
  reply : request.Reply

def Exchange.failed (e : Exchange) : Bool :=
  match e.reply with
  | .ok _ => false
  | .error _ => true

/-- A request that succeeded. -/
def Exchange.ofSuccess (r : Request) (a : r.Success) : Exchange := ⟨r, .ok a⟩

/-- The type that a value is written for without a conversion, where it is a text or texts; JSON otherwise. -/
def plainType : Value → Wire.DataType
  | .string _ => .text
  | .strings _ => .textArray
  | _ => .jsonb

/-- A server that always replies the same, but for what fails there. -/
def steadyReply (fault? : Request → Option EngineFault) (answer : Answer) (r : Request) (_ : Unit) : r.Reply × Unit :=
  match fault? r with
  | some f => (.error f, ())
  | none =>
    match r with
    | .connect _ | .send _ _ => (.ok (), ())
    | .prepare _ p => (.ok (p.values.map plainType), ())
    | .execute _ _ _ => (.ok answer, ())

namespace Program

variable {α β σ : Type}

/-- A program asks what stands in a conversation, is replied what stands in it, and ends with a value. -/
inductive Converses : Program α → List Exchange → α → Prop
  | done (a : α) : Converses (.done a) [] a
  | ask {r : Request} {next : r.Reply → Program α} (reply : r.Reply) {es : List Exchange} {a : α}
      (h : Converses (next reply) es a) : Converses (.ask r next) (⟨r, reply⟩ :: es) a

/-- What is said when a program is carried out. -/
def exchanges (reply : (r : Request) → σ → r.Reply × σ) : Program α → σ → List Exchange
  | done _, _ => []
  | ask r next, s => ⟨r, (reply r s).1⟩ :: exchanges reply (next (reply r s).1) (reply r s).2

theorem converses_run (reply : (r : Request) → σ → r.Reply × σ) (p : Program α) (s : σ) :
    p.Converses (p.exchanges reply s) (p.run reply s).1 := by
  induction p generalizing s with
  | done a => exact .done a
  | ask r next ih => exact .ask _ (ih _ _)

/-- A server that keeps no state replies to a request as it always does. -/
theorem reply_of_mem_exchanges {reply : (r : Request) → Unit → r.Reply × Unit} {p : Program α} {e : Exchange}
    (h : e ∈ p.exchanges reply ()) : e.reply = (reply e.request ()).1 := by
  induction p with
  | done a => cases h
  | ask r next ih =>
      cases h with
      | head => rfl
      | tail _ h => exact ih _ h

@[simp] theorem converses_done {a b : α} {es : List Exchange} :
    (done a).Converses es b ↔ es = [] ∧ b = a := by
  constructor
  · rintro ⟨⟩
    exact ⟨rfl, rfl⟩
  · rintro ⟨rfl, rfl⟩
    exact .done b

theorem converses_ask {r : Request} {next : r.Reply → Program α} {es : List Exchange} {a : α} :
    (ask r next).Converses es a ↔ ∃ reply rest, es = ⟨r, reply⟩ :: rest ∧ (next reply).Converses rest a := by
  constructor
  · rintro (_ | ⟨reply, h⟩)
    exact ⟨reply, _, rfl, h⟩
  · rintro ⟨reply, rest, rfl, h⟩
    exact .ask reply h

/-- What is said decides how a program ends. -/
theorem Converses.unique {p : Program α} {es : List Exchange} {a b : α} (ha : p.Converses es a)
    (hb : p.Converses es b) : a = b := by
  induction ha with
  | done a => exact (converses_done.mp hb).2.symm
  | ask reply _ ih =>
      cases hb with
      | ask _ hb => exact ih hb

/-- A conversation goes on where the first part's value leads. -/
theorem converses_bind {p : Program α} {f : α → Program β} {es : List Exchange} {b : β} :
    (p.bind f).Converses es b ↔
      ∃ a xs ys, es = xs ++ ys ∧ p.Converses xs a ∧ (f a).Converses ys b := by
  induction p generalizing es with
  | done a =>
      constructor
      · intro h
        exact ⟨a, [], es, rfl, .done a, h⟩
      · rintro ⟨a', xs, ys, rfl, hxs, hys⟩
        obtain ⟨rfl, rfl⟩ := converses_done.mp hxs
        exact hys
  | ask r next ih =>
      rw [bind, converses_ask]
      constructor
      · rintro ⟨reply, rest, rfl, h⟩
        obtain ⟨a, xs, ys, rfl, hxs, hys⟩ := (ih reply).mp h
        exact ⟨a, _, ys, rfl, .ask reply hxs, hys⟩
      · rintro ⟨a, xs, ys, rfl, hxs, hys⟩
        obtain ⟨reply, rest, rfl, hrest⟩ := converses_ask.mp hxs
        exact ⟨reply, rest ++ ys, rfl, (ih reply).mpr ⟨a, rest, ys, rfl, hrest, hys⟩⟩

/-- Of a program that only changes the value of another one, nothing more is said. -/
theorem converses_map {p : Program α} {f : α → Program β} {g : α → β} (hf : ∀ a, f a = .done (g a))
    {es : List Exchange} {b : β} : (p.bind f).Converses es b ↔ ∃ a, p.Converses es a ∧ b = g a := by
  rw [converses_bind]
  constructor
  · rintro ⟨a, xs, ys, rfl, hxs, hys⟩
    rw [hf] at hys
    obtain ⟨rfl, rfl⟩ := converses_done.mp hys
    exact ⟨a, (List.append_nil xs).symm ▸ hxs, rfl⟩
  · rintro ⟨a, h, rfl⟩
    exact ⟨a, es, [], (List.append_nil es).symm, h, hf a ▸ .done _⟩

theorem converses_request {r : Request} {es : List Exchange} {reply : r.Reply} :
    (request r).Converses es reply ↔ es = [⟨r, reply⟩] := by
  rw [request, converses_ask]
  constructor
  · rintro ⟨reply', rest, rfl, h⟩
    obtain ⟨rfl, rfl⟩ := converses_done.mp h
    rfl
  · rintro rfl
    exact ⟨reply, [], rfl, .done reply⟩

end Program

namespace Operation

variable {α β : Type}

theorem run_bind (op : Operation α) (f : α → Operation β) :
    (op >>= f).run = op.run.bind fun
      | .ok a => (f a).run
      | .error e => .done (.error e) := by
  show op.run.bind _ = _
  congr 1
  funext r
  cases r <;> rfl

theorem map_eq (f : α → β) (op : Operation α) : f <$> op = op >>= fun a => pure (f a) := by
  rfl

/-- An operation that goes on has succeeded first, or has failed as a whole. -/
theorem converses_bind {op : Operation α} {f : α → Operation β} {es : List Exchange} {r : Result β} :
    (op >>= f).run.Converses es r ↔
      (∃ a xs ys, es = xs ++ ys ∧ op.run.Converses xs (.ok a) ∧ (f a).run.Converses ys r) ∨
        ∃ e, op.run.Converses es (.error e) ∧ r = .error e := by
  rw [run_bind, Program.converses_bind]
  constructor
  · rintro ⟨a | e, xs, ys, rfl, hxs, hys⟩
    · obtain ⟨rfl, rfl⟩ := Program.converses_done.mp hys
      rw [List.append_nil]
      exact .inr ⟨_, hxs, rfl⟩
    · exact .inl ⟨_, xs, ys, rfl, hxs, hys⟩
  · rintro (⟨a, xs, ys, rfl, hxs, hys⟩ | ⟨e, h, rfl⟩)
    · exact ⟨.ok a, xs, ys, rfl, hxs, hys⟩
    · exact ⟨.error e, es, [], (List.append_nil es).symm, h, .done _⟩

theorem converses_bind_ok {op : Operation α} {f : α → Operation β} {es : List Exchange} {b : β} :
    (op >>= f).run.Converses es (.ok b) ↔
      ∃ a xs ys, es = xs ++ ys ∧ op.run.Converses xs (.ok a) ∧ (f a).run.Converses ys (.ok b) := by
  rw [converses_bind]
  constructor
  · rintro (h | ⟨e, -, he⟩)
    · exact h
    · cases he
  · exact .inl

@[simp] theorem converses_pure {a : α} {es : List Exchange} {r : Result α} :
    (pure a : Operation α).run.Converses es r ↔ es = [] ∧ r = .ok a := Program.converses_done

/-- A single request succeeds with its reply, or fails with an error of the driver. -/
theorem converses_ask {r : Request} {es : List Exchange} {result : Result r.Success} :
    (ask r).run.Converses es result ↔ ∃ reply : r.Reply, es = [⟨r, reply⟩] ∧ result =
      match reply with
      | .ok a => .ok a
      | .error f => .error (.ofCause (.driver f)) := by
  show ((Program.request r).bind _).Converses es result ↔ _
  rw [Program.converses_bind]
  constructor
  · rintro ⟨reply, xs, ys, rfl, hxs, hys⟩
    rw [Program.converses_request.mp hxs]
    refine ⟨reply, ?_⟩
    cases reply <;> simpa using Program.converses_done.mp hys
  · rintro ⟨reply, rfl, rfl⟩
    refine ⟨reply, _, [], rfl, Program.converses_request.mpr rfl, ?_⟩
    cases reply <;> exact .done _

theorem converses_ask_ok {r : Request} {es : List Exchange} {a : r.Success} :
    (ask r).run.Converses es (.ok a) ↔ es = [.ofSuccess r a] := by
  rw [converses_ask]
  constructor
  · rintro ⟨reply, rfl, h⟩
    cases reply <;> cases h
    rfl
  · rintro rfl
    exact ⟨.ok a, rfl, rfl⟩

/-- The result of an operation is the value of an operation that does not fail. -/
theorem converses_result {op : Operation α} {es : List Exchange} {r : Result (Result α)} :
    (result op).run.Converses es r ↔ ∃ r', op.run.Converses es r' ∧ r = .ok r' :=
  Program.converses_map fun _ => rfl

end Operation

end Docstore.Engine
