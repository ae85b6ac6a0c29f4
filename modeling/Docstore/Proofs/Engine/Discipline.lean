import Docstore.Proofs.Engine.Conversation

/-!
# Disciplines

A discipline says what an operation may ask, and what its conversation has to look like where the operation
succeeds. Operations that follow a discipline are put together from such operations: there is one lemma for each
way of putting operations together, and none of them looks at what is replied.
-/

namespace Docstore.Engine

/-- What may be asked, and how conversations have to look; one that nothing goes wrong in always may. -/
structure Discipline where
  allows : Request → Prop
  orderly : List Exchange → Prop
  nil : orderly []
  succeeded : ∀ {e : Exchange}, e.failed = false → orderly [e]
  append : ∀ {xs ys : List Exchange}, orderly xs → orderly ys → orderly (xs ++ ys)

/-- A discipline under which nothing matters but what is asked. -/
def Discipline.asking (allows : Request → Prop) : Discipline where
  allows := allows
  orderly _ := True
  nil := trivial
  succeeded _ := trivial
  append _ _ := trivial

/-- A program that only asks what is allowed, in an orderly way where it ends well. -/
def Program.Follows {α : Type} (d : Discipline) (well : α → Prop) (p : Program α) : Prop :=
  ∀ es a, p.Converses es a → (∀ e ∈ es, d.allows e.request) ∧ (well a → d.orderly es)

namespace Program.Follows

variable {α β : Type} {d : Discipline} {well : α → Prop} {well' : β → Prop}

theorem done (a : α) : (Program.done a).Follows d well := by
  intro es b h
  rw [(converses_done.mp h).1]
  exact ⟨List.forall_mem_nil _, fun _ => d.nil⟩

theorem request {r : Request} (h : d.allows r) : (Program.request r).Follows d fun reply => ∃ a, reply = .ok a := by
  intro es reply hes
  rw [converses_request.mp hes]
  refine ⟨fun e he => ?_, ?_⟩
  · rw [List.mem_singleton.mp he]
    exact h
  · rintro ⟨a, rfl⟩
    exact d.succeeded rfl

/-- A program goes on after another; where the whole ends well, so did the first. -/
theorem bind {p : Program α} {f : α → Program β} (hp : p.Follows d well) (hf : ∀ a, (f a).Follows d well')
    (hwell : ∀ a es b, (f a).Converses es b → well' b → well a) : (p.bind f).Follows d well' := by
  intro es b h
  obtain ⟨a, xs, ys, rfl, hxs, hys⟩ := converses_bind.mp h
  obtain ⟨hallowsx, horderlyx⟩ := hp xs a hxs
  obtain ⟨hallowsy, horderlyy⟩ := hf a ys b hys
  exact ⟨List.forall_mem_append.mpr ⟨hallowsx, hallowsy⟩,
    fun hb => d.append (horderlyx (hwell a ys b hys hb)) (horderlyy hb)⟩

/-- A program of which only the value is changed. -/
theorem map {p : Program α} {f : α → Program β} (hp : p.Follows d well)
    (hf : ∀ a, ∃ b, f a = .done b ∧ (well' b → well a)) : (p.bind f).Follows d well' := by
  refine hp.bind (fun a => ?_) fun a es b h hb => ?_
  · obtain ⟨b, hb, -⟩ := hf a
    rw [hb]
    exact .done b
  · obtain ⟨b', hb', hwell⟩ := hf a
    rw [hb'] at h
    rw [(converses_done.mp h).2] at hb
    exact hwell hb

/-- Where nothing matters but what is asked, it does not matter how a program ends. -/
theorem always {allows : Request → Prop} {p : Program α} {well' : α → Prop} (h : p.Follows (.asking allows) well) :
    p.Follows (.asking allows) well' :=
  fun es a hes => ⟨(h es a hes).1, fun _ => trivial⟩

end Program.Follows

namespace Operation

variable {α β : Type} {d : Discipline}

/-- An operation that only asks what is allowed, in an orderly way where it succeeds. -/
def Follows (d : Discipline) (op : Operation α) : Prop := op.run.Follows d fun r => ∃ a, r = .ok a

namespace Follows

theorem pure (a : α) : Follows d (pure a : Operation α) := .done _

theorem throw (f : Fault) : Follows d (throw f : Operation α) := .done _

theorem ofResult (r : Result α) : Follows d (liftM r : Operation α) := .done _

theorem bind {op : Operation α} {f : α → Operation β} (hop : op.Follows d) (hf : ∀ a, (f a).Follows d) :
    (op >>= f).Follows d := by
  rw [Follows, run_bind]
  refine Program.Follows.bind hop (fun r => ?_) fun r es b h hb => ?_
  · cases r with
    | ok a => exact hf a
    | error e => exact .done _
  · cases r with
    | ok a => exact ⟨a, rfl⟩
    | error e =>
        obtain ⟨b, rfl⟩ := hb
        cases (Program.converses_done.mp h).2

theorem ask {r : Request} (h : d.allows r) : Follows d (ask r) := by
  refine Program.Follows.map (.request h) fun reply => ?_
  cases reply with
  | ok a => exact ⟨_, rfl, fun _ => ⟨a, rfl⟩⟩
  | error f => exact ⟨_, rfl, fun ⟨_, ha⟩ => nomatch ha⟩

theorem send {c : Connection} {command : Command} (h : d.allows (.send c command)) :
    Follows d (send c command) := ask h

theorem query {c : Connection} {p : Prepared} (hprepare : d.allows (.prepare c p))
    (hexecute : ∀ arguments, d.allows (.execute c p arguments)) : Follows d (query c p) :=
  (ask hprepare).bind fun _ => (ofResult _).bind fun _ => ask (hexecute _)

theorem map {op : Operation α} (f : α → β) (h : op.Follows d) : (f <$> op).Follows d := by
  rw [map_eq]
  exact h.bind fun _ => pure _

theorem mapError {op : Operation α} (f : Error → Error) (h : op.Follows d) : (mapError f op).Follows d := by
  refine Program.Follows.map h fun r => ?_
  rcases r with (e | -) | a
  · exact ⟨_, rfl, fun ⟨_, ha⟩ => nomatch ha⟩
  · exact ⟨_, rfl, fun ⟨_, ha⟩ => nomatch ha⟩
  · exact ⟨_, rfl, fun _ => ⟨a, rfl⟩⟩

/-- An operation that does not end with its failure has to be orderly even where it fails. -/
theorem recover {op : Operation α} (accepts : Error → Bool) (value : α)
    (h : op.run.Follows d fun _ => True) : (recover accepts value op).Follows d := by
  refine Program.Follows.map h fun r => ?_
  rcases r with (e | -) | a
  all_goals exact ⟨_, rfl, fun _ => trivial⟩

theorem forM {xs : List α} {f : α → Operation Unit} (h : ∀ x, (f x).Follows d) : (xs.forM f).Follows d := by
  induction xs with
  | nil => exact pure ()
  | cons x xs ih => exact (h x).bind fun _ => ih

theorem ite {condition : Prop} [Decidable condition] {op op' : Operation α} (h : op.Follows d)
    (h' : op'.Follows d) : (if condition then op else op').Follows d := by
  split
  · exact h
  · exact h'

end Follows

end Operation

end Docstore.Engine
