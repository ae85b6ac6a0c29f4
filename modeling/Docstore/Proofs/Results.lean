import Docstore.Error
import Mathlib.Data.List.Forall2

/-!
# Results

What is known of the parts of a result that succeeded, of results that correspond, and of kinds of failures that no
part has.
-/

namespace Docstore.Result

variable {α β σ : Type}

theorem bind_ok {r : Result α} {f : α → Result β} {b : β} (h : r.bind f = .ok b) :
    ∃ a, r = .ok a ∧ f a = .ok b := by
  cases r with
  | ok a => exact ⟨a, rfl, h⟩
  | error e => cases h

theorem bind_eq_ok_iff {r : Result α} {f : α → Result β} {b : β} : r.bind f = .ok b ↔ ∃ a, r = .ok a ∧ f a = .ok b := by
  constructor
  · exact bind_ok
  · rintro ⟨a, rfl, h⟩
    exact h

theorem map_ok {r : Result α} {f : α → β} {b : β} (h : r.map f = .ok b) :
    ∃ a, r = .ok a ∧ f a = b := by
  cases r with
  | ok a => exact ⟨a, rfl, Except.ok.inj h⟩
  | error e => cases h

/-- Every result of a list comes from one of its items. -/
theorem mem_of_mapM_ok {f : α → Result β} {xs : List α} {ys : List β} (h : xs.mapM f = .ok ys)
    {y : β} (hy : y ∈ ys) : ∃ x ∈ xs, f x = .ok y := by
  induction xs generalizing ys with
  | nil =>
      cases h
      cases hy
  | cons x xs ih =>
      rw [List.mapM_cons] at h
      obtain ⟨z, hz, h⟩ := bind_ok h
      obtain ⟨zs, hzs, h⟩ := bind_ok h
      cases h
      rcases List.mem_cons.mp hy with rfl | hy
      · exact ⟨x, .head _, hz⟩
      · obtain ⟨w, hw, hf⟩ := ih hzs hy
        exact ⟨w, .tail _ hw, hf⟩

theorem mapM_map_ok {γ : Type} {f : β → Result γ} {g : α → β} {k : α → γ} {xs : List α}
    (h : ∀ x ∈ xs, f (g x) = .ok (k x)) : (xs.map g).mapM f = .ok (xs.map k) := by
  induction xs with
  | nil => rfl
  | cons x xs ih =>
      rw [List.map_cons, List.mapM_cons, h x (.head _), ih fun y hy => h y (.tail _ hy)]
      rfl

theorem mapM_eq_ok_iff {f : α → Result β} {xs : List α} {ys : List β} :
    xs.mapM f = .ok ys ↔ List.Forall₂ (fun x y => f x = .ok y) xs ys := by
  constructor
  · intro h
    induction xs generalizing ys with
    | nil =>
        cases h
        exact .nil
    | cons x xs ih =>
        rw [List.mapM_cons] at h
        obtain ⟨y, hy, h⟩ := bind_ok h
        obtain ⟨rest, hrest, h⟩ := bind_ok h
        cases h
        exact .cons hy (ih hrest)
  · intro h
    induction h with
    | nil => rfl
    | cons hy _ ih =>
        rw [List.mapM_cons, hy, ih]
        rfl

/-- A list fails as the first of its items that fails. -/
theorem mapM_eq_error_iff {f : α → Result β} {xs : List α} {e : Fault} : xs.mapM f = .error e ↔
    ∃ before x after, xs = before ++ x :: after ∧ (∀ y ∈ before, ∃ b, f y = .ok b) ∧ f x = .error e := by
  constructor
  · intro h
    induction xs with
    | nil => cases h
    | cons x xs ih =>
        rw [List.mapM_cons] at h
        cases hx : f x with
        | error e' =>
            rw [hx] at h
            cases h
            exact ⟨[], x, xs, rfl, List.forall_mem_nil _, hx⟩
        | ok b =>
            cases hxs : xs.mapM f with
            | ok bs =>
                rw [hx, hxs] at h
                cases h
            | error e' =>
                rw [hx, hxs] at h
                cases h
                obtain ⟨before, y, after, rfl, hbefore, hy⟩ := ih hxs
                exact ⟨x :: before, y, after, rfl, List.forall_mem_cons.mpr ⟨⟨b, hx⟩, hbefore⟩, hy⟩
  · rintro ⟨before, x, after, rfl, hbefore, hx⟩
    induction before with
    | nil =>
        rw [List.nil_append, List.mapM_cons, hx]
        rfl
    | cons y before ih =>
        obtain ⟨⟨b, hb⟩, hbefore⟩ := List.forall_mem_cons.mp hbefore
        rw [List.cons_append, List.mapM_cons, hb, ih hbefore]
        rfl

theorem foldlM_cons_eq_ok_iff {f : σ → α → Result σ} {x : α} {xs : List α} {s t : σ} :
    (x :: xs).foldlM f s = .ok t ↔ ∃ u, f s x = .ok u ∧ xs.foldlM f u = .ok t := by
  rw [List.foldlM_cons]
  exact bind_eq_ok_iff

/-- What every step keeps, a list of steps keeps. -/
theorem foldlM_ok {f : σ → α → Result σ} {p : σ → Prop} {xs : List α}
    (hf : ∀ x ∈ xs, ∀ s t, p s → f s x = .ok t → p t) {s t : σ} (hs : p s)
    (h : xs.foldlM f s = .ok t) : p t := by
  induction xs generalizing s with
  | nil =>
      cases h
      exact hs
  | cons x xs ih =>
      rw [List.foldlM_cons] at h
      obtain ⟨u, hu, h⟩ := bind_ok h
      exact ih (fun y hy => hf y (.tail _ hy)) (hf x (.head _) s u hs hu) h

/-- What steps add, one behind the other; nothing if none of them adds anything. -/
theorem foldlM_adds {f : σ → α → Result σ} {Adds : σ → σ → List β → Prop} {idle : α → Prop}
    (hrefl : ∀ s, Adds s s []) (htrans : ∀ {s t u bs cs}, Adds s t bs → Adds t u cs → Adds s u (bs ++ cs))
    {xs : List α} (hf : ∀ x ∈ xs, ∀ s t, f s x = .ok t → ∃ bs, Adds s t bs ∧ (bs = [] ↔ idle x)) {s t : σ}
    (h : xs.foldlM f s = .ok t) : ∃ bs, Adds s t bs ∧ (bs = [] ↔ ∀ x ∈ xs, idle x) := by
  induction xs generalizing s with
  | nil =>
      cases h
      exact ⟨[], hrefl _, iff_of_true rfl (List.forall_mem_nil _)⟩
  | cons x xs ih =>
      obtain ⟨u, hu, h⟩ := foldlM_cons_eq_ok_iff.mp h
      obtain ⟨bs, hbs, hidle⟩ := hf x (.head _) s u hu
      obtain ⟨cs, hcs, hrest⟩ := ih (fun y hy => hf y (.tail _ hy)) h
      exact ⟨bs ++ cs, htrans hbs hcs, by rw [List.append_eq_nil_iff, hidle, hrest, List.forall_mem_cons]⟩

/-- Steps that leave everything as it is make no difference. -/
theorem foldlM_filter {f : σ → α → Result σ} {relevant : α → Bool}
    (hidle : ∀ s x, relevant x = false → f s x = .ok s) (xs : List α) (s : σ) :
    (xs.filter relevant).foldlM f s = xs.foldlM f s := by
  have hstep : (fun s x => if relevant x = true then f s x else pure s) = f := by
    funext s x
    split
    case isTrue => rfl
    case isFalse hx => exact (hidle s x (Bool.eq_false_iff.mpr hx)).symm
  rw [List.foldlM_filter, hstep]

/-- The order of steps makes no difference if at most one of them changes anything. -/
theorem foldlM_perm {f : σ → α → Result σ} {relevant : α → Bool}
    (hidle : ∀ s x, relevant x = false → f s x = .ok s) {xs ys : List α} (hperm : xs.Perm ys)
    (honce : xs.countP relevant ≤ 1) (s : σ) : xs.foldlM f s = ys.foldlM f s := by
  have hfilter : xs.filter relevant = ys.filter relevant := by
    have hrelevant := hperm.filter relevant
    rw [List.countP_eq_length_filter] at honce
    match hxs : xs.filter relevant with
    | [] =>
      rw [hxs] at hrelevant
      exact (List.nil_perm.mp hrelevant).symm
    | [x] =>
      rw [hxs] at hrelevant
      exact List.singleton_perm.mp hrelevant
    | x :: y :: rest => simp [hxs] at honce
  rw [← foldlM_filter hidle, hfilter, foldlM_filter hidle]

/-! ## Results that correspond -/

/-- Both fail alike, or both succeed with values that are related. -/
inductive Corresponds (R : α → β → Prop) : Result α → Result β → Prop
  | ok {a : α} {b : β} (h : R a b) : Corresponds R (.ok a) (.ok b)
  | error (e : Fault) : Corresponds R (.error e) (.error e)

namespace Corresponds

variable {R : α → β → Prop} {r : Result α} {s : Result β}

theorem bind {γ δ : Type} {S : γ → δ → Prop} {f : α → Result γ} {g : β → Result δ} (h : Corresponds R r s)
    (hfg : ∀ a b, R a b → Corresponds S (f a) (g b)) : Corresponds S (r.bind f) (s.bind g) := by
  cases h with
  | ok h => exact hfg _ _ h
  | error e => exact .error e

theorem map_left {γ : Type} {S : γ → β → Prop} {f : α → γ} (h : Corresponds R r s)
    (hf : ∀ a b, R a b → S (f a) b) : Corresponds S (r.map f) s := by
  cases h with
  | ok h => exact .ok (hf _ _ h)
  | error e => exact .error e

theorem map_right {γ : Type} {S : α → γ → Prop} {f : β → γ} (h : Corresponds R r s)
    (hf : ∀ a b, R a b → S a (f b)) : Corresponds S r (s.map f) := by
  cases h with
  | ok h => exact .ok (hf _ _ h)
  | error e => exact .error e

/-- Two values made of one result. -/
theorem map_map {γ : Type} {f : γ → α} {g : γ → β} {r : Result γ} (hfg : ∀ c, r = .ok c → R (f c) (g c)) :
    Corresponds R (r.map f) (r.map g) := by
  cases r with
  | ok c => exact .ok (hfg c rfl)
  | error e => exact .error e

theorem mapM {γ : Type} {f : γ → Result α} {g : γ → Result β} (hfg : ∀ x, Corresponds R (f x) (g x)) (xs : List γ) :
    Corresponds (List.Forall₂ R) (xs.mapM f) (xs.mapM g) := by
  induction xs with
  | nil => exact .ok .nil
  | cons x xs ih =>
      rw [List.mapM_cons, List.mapM_cons]
      exact (hfg x).bind fun _ _ hx => ih.bind fun _ _ hxs => .ok (.cons hx hxs)

/-- Runs of steps that keep values related. -/
theorem foldlM {γ : Type} {f : α → γ → Result α} {g : β → γ → Result β}
    (hfg : ∀ a b x, R a b → Corresponds R (f a x) (g b x)) (xs : List γ) {a : α} {b : β} (h : R a b) :
    Corresponds R (xs.foldlM f a) (xs.foldlM g b) := by
  induction xs generalizing a b with
  | nil => exact .ok h
  | cons x xs ih =>
      rw [List.foldlM_cons, List.foldlM_cons]
      exact (hfg a b x h).bind fun _ _ => ih

theorem exists_left (h : Corresponds R r s) {b : β} (hb : s = .ok b) : ∃ a, r = .ok a ∧ R a b := by
  subst hb
  cases h with
  | ok h => exact ⟨_, rfl, h⟩

theorem exists_right (h : Corresponds R r s) {a : α} (ha : r = .ok a) : ∃ b, s = .ok b ∧ R a b := by
  subst ha
  cases h with
  | ok h => exact ⟨_, rfl, h⟩

end Corresponds

/-! ## Kinds of failures -/

/-- A result that is no failure of a kind. -/
def Avoids (k : Kind) (r : Result α) : Prop := ∀ e, r = .error (.error e) → e.is k = false

namespace Avoids

variable {k : Kind}

theorem ok (a : α) : Avoids k (.ok a : Result α) := fun _ h => nomatch h

theorem fail {c : Cause} (h : (Error.ofCause c).is k = false) : Avoids k (fail c : Result α) := by
  rintro e he
  cases he
  exact h

theorem bind {r : Result α} {f : α → Result β} (hr : Avoids k r) (hf : ∀ a, Avoids k (f a)) : Avoids k (r.bind f) := by
  intro e he
  cases r with
  | ok a => exact hf a e he
  | error fault =>
      cases he
      exact hr e rfl

theorem map {r : Result α} (hr : Avoids k r) (f : α → β) : Avoids k (r.map f) := by
  intro e he
  cases r with
  | ok a => cases he
  | error fault =>
      cases he
      exact hr e rfl

theorem mapM {f : α → Result β} (hf : ∀ a, Avoids k (f a)) (xs : List α) : Avoids k (xs.mapM f) := by
  induction xs with
  | nil => exact .ok []
  | cons x xs ih =>
      rw [List.mapM_cons]
      exact (hf x).bind fun _ => ih.bind fun _ => .ok _

end Avoids

end Docstore.Result
