import Docstore.Proofs.Engine.Courses

/-!
# Postconditions

What holds after an operation, where what replies has a state that the replies depend on (`Ensures`), and what such an
operation can come to (`Leads`). There is one rule for each way of putting operations together; what a single request
does is left to what replies.
-/

namespace Docstore.Engine

/-- Something that replies: which exchanges may happen in a state, and the states that they lead to. -/
abbrev Service (σ : Type) := σ → Exchange → σ → Prop

namespace Service

variable {σ : Type} {S : Service σ} {s u : σ} {xs ys : List Exchange}

/-- A conversation that may happen, and where it leads. -/
inductive Serves (S : Service σ) : σ → List Exchange → σ → Prop
  | nil (s : σ) : Serves S s [] s
  | cons {s t u : σ} {e : Exchange} {es : List Exchange} (h : S s e t) (hes : Serves S t es u) :
      Serves S s (e :: es) u

theorem serves_singleton {e : Exchange} : S.Serves s [e] u ↔ S s e u := by
  constructor
  · intro h
    cases h with
    | cons h hes => cases hes with
      | nil => exact h
  · exact fun h => .cons h (.nil u)

theorem serves_append : S.Serves s (xs ++ ys) u ↔ ∃ t, S.Serves s xs t ∧ S.Serves t ys u := by
  induction xs generalizing s with
  | nil =>
      constructor
      · exact fun h => ⟨s, .nil s, h⟩
      · rintro ⟨t, hxs, hys⟩
        cases hxs
        exact hys
  | cons e xs ih =>
      constructor
      · intro h
        cases h with
        | cons h hes =>
            obtain ⟨t, hxs, hys⟩ := ih.mp hes
            exact ⟨t, .cons h hxs, hys⟩
      · rintro ⟨t, hxs, hys⟩
        cases hxs with
        | cons h hxs => exact .cons h (ih.mpr ⟨t, hxs, hys⟩)

end Service

namespace Operation

variable {σ α β : Type} {S : Service σ} {P : σ → Prop} {Q : α → σ → Prop} {E : Fault → σ → Prop}

/-- What holds once an operation has ended: `Q` of its answer, or `E` of its failure. -/
def Ensures (S : Service σ) (P : σ → Prop) (op : Operation α) (Q : α → σ → Prop) (E : Fault → σ → Prop) : Prop :=
  ∀ s es r t, P s → op.run.Converses es r → S.Serves s es t →
    match r with
    | .ok a => Q a t
    | .error f => E f t

namespace Ensures

theorem mono {P' : σ → Prop} {Q' : α → σ → Prop} {E' : Fault → σ → Prop} {op : Operation α}
    (h : op.Ensures S P Q E) (hP : ∀ s, P' s → P s) (hQ : ∀ a s, Q a s → Q' a s) (hE : ∀ f s, E f s → E' f s) :
    op.Ensures S P' Q' E' := by
  intro s es r t hs hes hserves
  have hresult := h s es r t (hP s hs) hes hserves
  cases r with
  | ok a => exact hQ a t hresult
  | error f => exact hE f t hresult

theorem pure {a : α} (h : ∀ s, P s → Q a s) : (pure a : Operation α).Ensures S P Q E := by
  intro s es r t hs hes hserves
  obtain ⟨rfl, rfl⟩ := converses_pure.mp hes
  cases hserves
  exact h s hs

theorem throw {f : Fault} (h : ∀ s, P s → E f s) : (throw f : Operation α).Ensures S P Q E := by
  intro s es r t hs hes hserves
  obtain ⟨rfl, rfl⟩ := Program.converses_done.mp hes
  cases hserves
  exact h s hs

theorem ofResult {outcome : Result α} (hok : ∀ a s, outcome = .ok a → P s → Q a s)
    (herror : ∀ f s, outcome = .error f → P s → E f s) : (liftM outcome : Operation α).Ensures S P Q E := by
  intro s es r t hs hes hserves
  obtain ⟨rfl, rfl⟩ := Program.converses_done.mp hes
  cases hserves
  cases r with
  | ok a => exact hok a s rfl hs
  | error f => exact herror f s rfl hs

theorem bind {R : β → σ → Prop} {op : Operation β} {f : β → Operation α} (hop : op.Ensures S P R E)
    (hf : ∀ b, (f b).Ensures S (R b) Q E) : (op >>= f).Ensures S P Q E := by
  intro s es r t hs hes hserves
  rcases converses_bind.mp hes with ⟨b, xs, ys, rfl, hxs, hys⟩ | ⟨fault, hxs, rfl⟩
  · obtain ⟨u, hux, huy⟩ := Service.serves_append.mp hserves
    exact hf b u ys r t (hop s xs _ u hs hxs hux) hys huy
  · exact hop s es _ t hs hxs hserves

theorem ask {r : Request} {Q : r.Success → σ → Prop} (hok : ∀ s a t, P s → S s (.ofSuccess r a) t → Q a t)
    (herror : ∀ s f t, P s → S s ⟨r, .error f⟩ t → E (.error (.ofCause (.driver f))) t) : (ask r).Ensures S P Q E := by
  intro s es result t hs hes hserves
  obtain ⟨reply, rfl, rfl⟩ := converses_ask.mp hes
  cases reply with
  | ok a => exact hok s a t hs (Service.serves_singleton.mp hserves)
  | error f => exact herror s f t hs (Service.serves_singleton.mp hserves)

theorem mapError {F : Fault → σ → Prop} {f : Error → Error} {op : Operation α} (h : op.Ensures S P Q F)
    (hE : ∀ e s, F (.error e) s → E (.error (f e)) s) (hcrash : ∀ s, F .crash s → E .crash s) :
    (mapError f op).Ensures S P Q E := by
  intro s es r t hs hes hserves
  obtain ⟨r', xs, ys, rfl, hxs, hys⟩ := Program.converses_bind.mp hes
  obtain ⟨u, hux, huy⟩ := Service.serves_append.mp hserves
  have hresult := h s xs r' u hs hxs hux
  rcases r' with (e | _) | a
  all_goals
    obtain ⟨rfl, rfl⟩ := Program.converses_done.mp hys
    cases huy
  · exact hE e _ hresult
  · exact hcrash _ hresult
  · exact hresult

theorem recover {accepts : Error → Bool} {value : α} {op : Operation α} {F : Fault → σ → Prop}
    (h : op.Ensures S P Q F) (hvalue : ∀ e s, accepts e = true → F (.error e) s → Q value s)
    (hE : ∀ f s, F f s → E f s) : (recover accepts value op).Ensures S P Q E := by
  intro s es r t hs hes hserves
  obtain ⟨r', xs, ys, rfl, hxs, hys⟩ := Program.converses_bind.mp hes
  obtain ⟨u, hux, huy⟩ := Service.serves_append.mp hserves
  have hresult := h s xs r' u hs hxs hux
  rcases r' with (e | _) | a
  all_goals
    obtain ⟨rfl, rfl⟩ := Program.converses_done.mp hys
    cases huy
  · cases haccepts : accepts e with
    | true => exact hvalue e _ haccepts hresult
    | false => exact hE _ _ hresult
  · exact hE _ _ hresult
  · exact hresult

theorem result {op : Operation α} (h : op.Ensures S P Q E) : (result op).Ensures S P
    (fun
      | .ok a => Q a
      | .error f => E f) fun _ _ => False := by
  intro s es r t hs hes hserves
  obtain ⟨r', hes', rfl⟩ := converses_result.mp hes
  have hresult := h s es r' t hs hes' hserves
  cases r' with
  | ok a => exact hresult
  | error f => exact hresult

/-- To undo something is a single request, whatever comes of it. -/
theorem step_of_undo {c : Sql.ScopeControl} {s t : σ} {es : List Exchange} {u : Unit}
    (h : (undo c).Converses es u) (hserves : S.Serves s es t) :
    ∃ reply, S s ⟨.send .pooled (.scope c), reply⟩ t := by
  obtain ⟨⟨request, reply⟩, hclose, rfl⟩ := converses_undo.mp h
  cases hclose
  exact ⟨reply, Service.serves_singleton.mp hserves⟩

theorem undone {c : Sql.ScopeControl} {Q : Unit → σ → Prop}
    (h : ∀ s reply t, P s → S s ⟨.send .pooled (.scope c), reply⟩ t → Q () t) :
    (liftM (undo c) : Operation Unit).Ensures S P Q E := by
  intro s es r t hs hes hserves
  obtain ⟨u, xs, ys, rfl, hxs, hys⟩ := Program.converses_bind.mp hes
  obtain ⟨rfl, rfl⟩ := Program.converses_done.mp hys
  rw [List.append_nil] at hserves
  obtain ⟨reply, hstep⟩ := step_of_undo hxs hserves
  exact h s reply t hs hstep

theorem undoing {c : Sql.ScopeControl} {op : Operation α} {F : Fault → σ → Prop} (h : op.Ensures S P Q F)
    (hundo : ∀ f s reply t, F f s → S s ⟨.send .pooled (.scope c), reply⟩ t → E f t) :
    (onFailure (undo c) op).Ensures S P Q E := by
  intro s es r t hs hes hserves
  obtain ⟨r', xs, ys, rfl, hxs, hys⟩ := Program.converses_bind.mp hes
  obtain ⟨u, hux, huy⟩ := Service.serves_append.mp hserves
  have hresult := h s xs r' u hs hxs hux
  cases r' with
  | ok a =>
      obtain ⟨rfl, rfl⟩ := Program.converses_done.mp hys
      cases huy
      exact hresult
  | error f =>
      obtain ⟨_, zs, ws, rfl, hzs, hws⟩ := Program.converses_bind.mp hys
      obtain ⟨rfl, rfl⟩ := Program.converses_done.mp hws
      rw [List.append_nil] at huy
      obtain ⟨reply, hstep⟩ := step_of_undo hzs huy
      exact hundo f u reply t hresult hstep

/-- A command behind a savepoint, in the four ways in which it can end. -/
theorem attempt {savepoint : String} {command : Command} {accepts : Error → Bool} {R D : σ → Prop}
    {F : Error → σ → Prop} {Q : Option Error → σ → Prop}
    (hsave : (scope (.savepoint savepoint)).Ensures S P (fun _ => R) E)
    (hsend : (send .pooled command).Ensures S R (fun _ => D) fun f s => ∃ e, f = .error e ∧ F e s)
    (hrelease : (scope (.release savepoint)).Ensures S D (fun _ => Q none) E)
    (hreturn : ∀ e, accepts e = true → (scope (.rollbackTo savepoint)).Ensures S (F e) (fun _ => Q (some e)) E)
    (hundo : ∀ e s reply t, F e s → S s ⟨.send .pooled (.scope (.rollbackTo savepoint)), reply⟩ t → E (.error e) t) :
    (attempt savepoint command accepts).Ensures S P Q E := by
  refine hsave.bind fun _ => ((result hsend).mono (fun _ hs => hs) (fun _ _ h => h) nofun).bind fun outcome => ?_
  rcases outcome with (e | _) | _
  · by_cases haccepts : accepts e = true
    · simp only [haccepts, if_true]
      refine ((hreturn e haccepts).mono ?_ (fun _ _ h => h) fun _ _ h => h).bind fun _ => pure fun _ hs => hs
      rintro s ⟨e', he', hs⟩
      cases he'
      exact hs
    · simp only [haccepts]
      refine Ensures.bind (R := fun _ => E (.error e)) (undone fun s reply t hs hstep => ?_)
        fun _ => throw fun _ hs => hs
      obtain ⟨e', he', hs⟩ := hs
      cases he'
      exact hundo e s reply t hs hstep
  · exact throw fun s hs => by
      obtain ⟨e, he, -⟩ := hs
      cases he
  · exact hrelease.bind fun _ => pure fun _ hs => hs

theorem forM {I : List β → σ → Prop} {f : β → Operation Unit} {xs : List β}
    (h : ∀ x ∈ xs, ∀ rest, (f x).Ensures S (I (x :: rest)) (fun _ => I rest) E) :
    (xs.forM f).Ensures S (I xs) (fun _ => I []) E := by
  induction xs with
  | nil => exact pure fun _ hs => hs
  | cons x xs ih => exact (h x (.head _) xs).bind fun _ => ih fun y hy => h y (.tail _ hy)

end Ensures

/-! ## Possible conversations -/

/-- A result that an operation may have, and a state that it may lead to. -/
def Leads (S : Service σ) (s : σ) (op : Operation α) (r : Result α) (t : σ) : Prop :=
  ∃ es, op.run.Converses es r ∧ S.Serves s es t

namespace Leads

variable {s t u : σ} {op : Operation α}

theorem pure (s : σ) (a : α) : Leads S s (Pure.pure a : Operation α) (.ok a) s :=
  ⟨[], converses_pure.mpr ⟨rfl, rfl⟩, .nil s⟩

theorem ofResult {outcome r : Result α} (h : outcome = r) : Leads S s (liftM outcome : Operation α) r s :=
  ⟨[], Program.converses_done.mpr ⟨rfl, h.symm⟩, .nil s⟩

theorem ask {r : Request} {a : r.Success} (h : S s (.ofSuccess r a) t) : (ask r).Leads S s (.ok a) t :=
  ⟨[.ofSuccess r a], converses_ask.mpr ⟨.ok a, rfl, rfl⟩, Service.serves_singleton.mpr h⟩

theorem bind {op : Operation β} {f : β → Operation α} {b : β} {r : Result α} (hop : op.Leads S s (.ok b) t)
    (hf : (f b).Leads S t r u) : (op >>= f).Leads S s r u := by
  obtain ⟨xs, hxs, hsx⟩ := hop
  obtain ⟨ys, hys, hsy⟩ := hf
  exact ⟨xs ++ ys, converses_go hxs hys, Service.serves_append.mpr ⟨t, hsx, hsy⟩⟩

theorem mapError {f : Error → Error} {a : α} (h : op.Leads S s (.ok a) t) : (mapError f op).Leads S s (.ok a) t := by
  obtain ⟨es, hes, hserves⟩ := h
  exact ⟨es, Program.converses_bind.mpr ⟨.ok a, es, [], (List.append_nil es).symm, hes, .done _⟩, hserves⟩

theorem recover {accepts : Error → Bool} {value a : α} (h : op.Leads S s (.ok a) t) :
    (recover accepts value op).Leads S s (.ok a) t := by
  obtain ⟨es, hes, hserves⟩ := h
  exact ⟨es, Program.converses_bind.mpr ⟨.ok a, es, [], (List.append_nil es).symm, hes, .done _⟩, hserves⟩

theorem onFailure {cleanup : Program Unit} {a : α} (h : op.Leads S s (.ok a) t) :
    (onFailure cleanup op).Leads S s (.ok a) t := by
  obtain ⟨es, hes, hserves⟩ := h
  exact ⟨es, Program.converses_bind.mpr ⟨.ok a, es, [], (List.append_nil es).symm, hes, .done _⟩, hserves⟩

end Leads

end Operation

end Docstore.Engine
