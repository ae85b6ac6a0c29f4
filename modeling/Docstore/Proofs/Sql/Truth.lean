import Docstore.Proofs.Sql.Items
import Docstore.Proofs.Sql.Statements

/-!
# Three-valued truth

What a text of connectives says of a row, given what its parts without connectives say: alternatives bind
looser than conjuncts, and those looser than a negation. Templates that are solid for both connectives say
what they were put together to say.
-/

namespace Docstore.Sql

/-! ## Truth values -/

/-- What an engine says of a condition; only yes keeps a row. -/
inductive Truth
  | yes
  | no
  | unknown
deriving DecidableEq, Repr

namespace Truth

def ofBool (b : Bool) : Truth := if b then yes else no

def not : Truth → Truth
  | yes => no
  | no => yes
  | unknown => unknown

def and : Truth → Truth → Truth
  | no, _ | _, no => no
  | yes, t | t, yes => t
  | unknown, unknown => unknown

def or : Truth → Truth → Truth
  | yes, _ | _, yes => yes
  | no, t | t, no => t
  | unknown, unknown => unknown

def all (ts : List Truth) : Truth := ts.foldr and yes

def any (ts : List Truth) : Truth := ts.foldr or no

@[simp] theorem not_eq_yes {t : Truth} : t.not = yes ↔ t = no := by cases t <;> decide

@[simp] theorem not_eq_no {t : Truth} : t.not = no ↔ t = yes := by cases t <;> decide

@[simp] theorem and_eq_yes {s t : Truth} : s.and t = yes ↔ s = yes ∧ t = yes := by
  cases s <;> cases t <;> decide

@[simp] theorem or_eq_yes {s t : Truth} : s.or t = yes ↔ s = yes ∨ t = yes := by
  cases s <;> cases t <;> decide

@[simp] theorem or_eq_no {s t : Truth} : s.or t = no ↔ s = no ∧ t = no := by
  cases s <;> cases t <;> decide

@[simp] theorem and_yes (t : Truth) : t.and yes = t := by cases t <;> rfl

@[simp] theorem yes_and (t : Truth) : yes.and t = t := by cases t <;> rfl

@[simp] theorem or_no (t : Truth) : t.or no = t := by cases t <;> rfl

theorem and_assoc (r s t : Truth) : (r.and s).and t = r.and (s.and t) := by
  cases r <;> cases s <;> cases t <;> rfl

@[simp] theorem ofBool_eq_yes {b : Bool} : ofBool b = yes ↔ b = true := by cases b <;> decide

@[simp] theorem ofBool_eq_no {b : Bool} : ofBool b = no ↔ b = false := by cases b <;> decide

@[simp] theorem all_nil : all [] = yes := rfl

@[simp] theorem all_cons (t : Truth) (ts : List Truth) : all (t :: ts) = t.and (all ts) := rfl

@[simp] theorem any_nil : any [] = no := rfl

@[simp] theorem any_cons (t : Truth) (ts : List Truth) : any (t :: ts) = t.or (any ts) := rfl

/-- Alternatives are false where each of them is. -/
theorem any_eq_no {ts : List Truth} : any ts = no ↔ ∀ t ∈ ts, t = no := by
  induction ts with
  | nil => simp
  | cons t ts ih => rw [any_cons, or_eq_no, ih, List.forall_mem_cons]

theorem any_eq_yes {ts : List Truth} : any ts = yes ↔ ∃ t ∈ ts, t = yes := by
  induction ts with
  | nil => simp
  | cons t ts ih => rw [any_cons, or_eq_yes, ih, List.exists_mem_cons_iff]

theorem all_eq_yes {ts : List Truth} : all ts = yes ↔ ∀ t ∈ ts, t = yes := by
  induction ts with
  | nil => simp
  | cons t ts ih => rw [all_cons, and_eq_yes, ih, List.forall_mem_cons]

theorem all_append (ss ts : List Truth) : all (ss ++ ts) = (all ss).and (all ts) := by
  induction ss with
  | nil => simp
  | cons s ss ih => rw [List.cons_append, all_cons, ih, all_cons, and_assoc]

theorem all_flatMap {α : Type} (f : α → List Truth) (xs : List α) :
    all (xs.flatMap f) = all (xs.map fun x => all (f x)) := by
  induction xs with
  | nil => rfl
  | cons x xs ih => rw [List.flatMap_cons, all_append, ih, List.map_cons, all_cons]

end Truth

/-! ## Connectives -/

namespace Lexeme

def alternatives (ls : List Lexeme) : List (List Lexeme) := splitFrom (separator ['O', 'R']) 0 0 ls

def conjuncts (ls : List Lexeme) : List (List Lexeme) := splitFrom (separator ['A', 'N', 'D']) 0 0 ls

def negated? : List Lexeme → Option (List Lexeme)
  | .char 'N' :: .char 'O' :: .char 'T' :: .char ' ' :: ls => some ls
  | _ => none

/-- What a pair of parentheses around all of a text encloses. -/
def inner? : List Lexeme → Option (List Lexeme)
  | .char '(' :: ls =>
    if ls.getLast? = some (.char ')') ∧ depth? 0 ls.dropLast = some 0 then some ls.dropLast else none
  | _ => none

theorem length_pushFront (l : Lexeme) (ps : List (List Lexeme)) :
    (pushFront l ps).flatten.length + (pushFront l ps).length ≤ ps.flatten.length + ps.length + 2 ∧
      (ps ≠ [] → (pushFront l ps).flatten.length + (pushFront l ps).length ≤
        ps.flatten.length + ps.length + 1) := by
  cases ps with
  | nil => simp [pushFront]
  | cons p ps =>
      simp only [pushFront, List.flatten_cons, List.cons_append, List.length_cons]
      omega

theorem splitFrom_ne_nil (sep : List Lexeme) (skip d : Nat) (ls : List Lexeme) :
    splitFrom sep skip d ls ≠ [] := by
  induction ls generalizing skip d with
  | nil => cases skip <;> simp [splitFrom]
  | cons l ls ih =>
      cases skip with
      | succ skip => exact ih skip d
      | zero =>
          rw [splitFrom]
          split
          · exact List.cons_ne_nil _ _
          · cases splitFrom sep 0 (deeper d l) ls <;> exact List.cons_ne_nil _ _

/-- Each separator takes at least a lexeme away from the pieces. -/
theorem length_splitFrom (sep : List Lexeme) (skip d : Nat) (ls : List Lexeme) :
    (splitFrom sep skip d ls).flatten.length + (splitFrom sep skip d ls).length ≤ ls.length + 1 := by
  induction ls generalizing skip d with
  | nil => cases skip <;> simp [splitFrom]
  | cons l ls ih =>
      cases skip with
      | succ skip =>
          have hrest := ih skip d
          rw [splitFrom, List.length_cons]
          omega
      | zero =>
          rw [splitFrom, List.length_cons]
          split
          · have hrest := ih (sep.length - 1) 0
            simp only [List.flatten_cons, List.nil_append, List.length_cons]
            omega
          · have hrest := ih 0 (deeper d l)
            have hfront := (length_pushFront l _).2 (splitFrom_ne_nil sep 0 (deeper d l) ls)
            omega

/-- Where there are several pieces, each is shorter than the whole. -/
theorem length_of_mem_splitFrom {sep ls p : List Lexeme} (h : 1 < (splitFrom sep 0 0 ls).length)
    (hp : p ∈ splitFrom sep 0 0 ls) : p.length < ls.length := by
  have hall := length_splitFrom sep 0 0 ls
  have hpiece := (List.sublist_flatten_of_mem hp).length_le
  omega

theorem length_negated? {ls rest : List Lexeme} (h : negated? ls = some rest) :
    rest.length < ls.length := by
  unfold negated? at h
  split at h
  · cases h
    simp only [List.length_cons]
    omega
  · cases h

theorem length_inner? {ls rest : List Lexeme} (h : inner? ls = some rest) :
    rest.length < ls.length := by
  unfold inner? at h
  split at h
  · split at h
    · cases h
      simp only [List.length_dropLast, List.length_cons]
      omega
    · cases h
  · cases h

/-- What a text says, by what its parts without connectives say. -/
def truth (atom : List Lexeme → Truth) (ls : List Lexeme) : Truth :=
  if _ : 1 < (alternatives ls).length then
    Truth.any ((alternatives ls).attach.map fun p => truth atom p.1)
  else if _ : 1 < (conjuncts ls).length then
    Truth.all ((conjuncts ls).attach.map fun p => truth atom p.1)
  else match _ : negated? ls with
    | some rest => (truth atom rest).not
    | none =>
      match _ : inner? ls with
      | some rest => truth atom rest
      | none => atom ls
termination_by ls.length
decreasing_by
  · exact length_of_mem_splitFrom ‹_› p.2
  · exact length_of_mem_splitFrom ‹_› p.2
  · exact length_negated? ‹_›
  · exact length_inner? ‹_›

end Lexeme

/-! ## Texts of connectives -/

namespace Lexeme

variable {atom : List Lexeme → Truth} {ls : List Lexeme}

theorem truth_of_alternatives {ps : List (List Lexeme)} (h : alternatives ls = ps)
    (hps : 1 < ps.length) : truth atom ls = Truth.any (ps.map (truth atom)) := by
  subst h
  rw [truth, dif_pos hps, List.attach_map_val]

theorem truth_of_conjuncts {ps : List (List Lexeme)} (hor : alternatives ls = [ls])
    (h : conjuncts ls = ps) (hps : 1 < ps.length) :
    truth atom ls = Truth.all (ps.map (truth atom)) := by
  subst h
  rw [truth, dif_neg (by simp [hor]), dif_pos hps, List.attach_map_val]

theorem truth_of_negated? {rest : List Lexeme} (hor : alternatives ls = [ls])
    (hand : conjuncts ls = [ls]) (h : negated? ls = some rest) :
    truth atom ls = (truth atom rest).not := by
  rw [truth, dif_neg (by simp [hor]), dif_neg (by simp [hand])]
  split
  · rename_i other hother
    cases h.symm.trans hother
    rfl
  · rename_i hnone
    cases h.symm.trans hnone

theorem truth_of_inner? {rest : List Lexeme} (hor : alternatives ls = [ls])
    (hand : conjuncts ls = [ls]) (hnot : negated? ls = none) (h : inner? ls = some rest) :
    truth atom ls = truth atom rest := by
  rw [truth, dif_neg (by simp [hor]), dif_neg (by simp [hand])]
  split
  · rename_i hsome
    cases hnot.symm.trans hsome
  · split
    · rename_i other hother
      cases h.symm.trans hother
      rfl
    · rename_i hnone
      cases h.symm.trans hnone

theorem truth_of_atom (hor : alternatives ls = [ls]) (hand : conjuncts ls = [ls])
    (hnot : negated? ls = none) (h : inner? ls = none) : truth atom ls = atom ls := by
  rw [truth, dif_neg (by simp [hor]), dif_neg (by simp [hand])]
  split
  · rename_i hsome
    cases hnot.symm.trans hsome
  · split
    · rename_i hsome
      cases h.symm.trans hsome
    · rfl

theorem depth?_append (d : Nat) (ls ms : List Lexeme) :
    depth? d (ls ++ ms) = (depth? d ls).bind (depth? · ms) := by
  induction ls generalizing d with
  | nil => rfl
  | cons l ls ih =>
      cases l with
      | char c =>
          simp only [List.cons_append, depth?, ih]
          repeat' split
          all_goals rfl
      | _ => exact ih d

end Lexeme

/-! ## Templates of connectives -/

namespace Template

/-- A text that parentheses around it are partners of each other for. -/
def Balanced (t : Template) : Prop :=
  ∀ next, Lexeme.depth? 0 (Fragment.lexemes (number next t)) = some 0

/-- Neither a negation nor a group. -/
def Atomic (t : Template) : Prop :=
  ∀ next, Lexeme.negated? (Fragment.lexemes (number next t)) = none ∧
    Lexeme.inner? (Fragment.lexemes (number next t)) = none

/-- What a template says where its values are bound, wherever it is numbered from. -/
def Reads (answer : List Item → Truth) (t : Template) (x : Truth) : Prop :=
  ∀ (b : Bindings) (next : Nat), b.Holds next t.values →
    Lexeme.truth (fun ls => answer (b.items ls)) (Fragment.lexemes (number next t)) = x

theorem Solid.balanced {word : List Char} {t : Template} (h : Solid word t) : Balanced t := fun next =>
  Spot.run_depth (h.passes next)

theorem Balanced.append {t u : Template} (ht : Balanced t) (hu : Balanced u) : Balanced (t ++ u) := by
  intro next
  rw [number_append, Fragment.lexemes_append, Lexeme.depth?_append, ht next]
  exact hu _

theorem Balanced.join {sep : String} (hsep : Balanced (words sep)) {ts : List Template}
    (h : ∀ t ∈ ts, Balanced t) : Balanced (join sep ts) := by
  match ts with
  | [] => exact fun _ => rfl
  | [t] => exact h t (.head _)
  | t :: u :: ts =>
      rw [join_cons_cons]
      exact ((h t (.head _)).append hsep).append (Balanced.join hsep fun v hv => h v (.tail _ hv))

/-- A text that is solid for both connectives. -/
structure Whole (t : Template) : Prop where
  or : Solid ['O', 'R'] t
  and : Solid ['A', 'N', 'D'] t

section

variable {answer : List Item → Truth} {t : Template} {x : Truth}

theorem Solid.splitFrom_eq {word : List Char} (hword : IsWord word) (h : Solid word t) (next : Nat) :
    Lexeme.splitFrom (separator word) 0 0 (Fragment.lexemes (number next t)) =
      [Fragment.lexemes (number next t)] := by
  have hsplit := Lexeme.splitFrom_append hword (h.passes next) []
  rw [List.append_nil] at hsplit
  exact hsplit.trans (by simp [Lexeme.splitFrom, Lexeme.foldr_pushFront])

/-- Solid templates come apart where they were joined. -/
theorem splitFrom_join {word : List Char} (hword : IsWord word) (sep : String)
    (hsep : sep.toList = ' ' :: Spot.behindBlank word) {ts : List Template} (hts : ts ≠ [])
    (h : ∀ t ∈ ts, Solid word t) (b : Bindings) :
    Lexeme.splitFrom (separator word) 0 0 (Fragment.lexemes (number b.next (join sep ts))) =
      (b.writeAll ts).1.map Fragment.lexemes := by
  rw [← Bindings.joinFragments_writeAll]
  apply Fragment.splitFrom_joinFragments hword hsep
  · obtain ⟨t, ts, rfl⟩ := List.exists_cons_of_ne_nil hts
    rw [Bindings.writeAll_cons]
    exact List.cons_ne_nil _ _
  · intro k hk
    obtain ⟨t, ht, n, rfl⟩ := Bindings.mem_writeAll hk
    exact (h t ht).passes n

theorem Whole.alternatives_eq (h : Whole t) (next : Nat) :
    Lexeme.alternatives (Fragment.lexemes (number next t)) = [Fragment.lexemes (number next t)] :=
  h.or.splitFrom_eq (by decide) next

theorem Whole.conjuncts_eq (h : Whole t) (next : Nat) :
    Lexeme.conjuncts (Fragment.lexemes (number next t)) = [Fragment.lexemes (number next t)] :=
  h.and.splitFrom_eq (by decide) next

theorem Atomic.reads (h : Atomic t) (hwhole : Whole t) (ht : .again ∉ t) : Reads answer t (answer t.items) := by
  intro b next hb
  rw [Lexeme.truth_of_atom (hwhole.alternatives_eq next) (hwhole.conjuncts_eq next) (h next).1 (h next).2,
    items_number ht hb]

theorem Reads.negate (h : Reads answer t x) (hwhole : Whole (words "NOT " ++ t)) :
    Reads answer (words "NOT " ++ t) x.not := by
  intro b next hb
  have hnot : Lexeme.negated? (Fragment.lexemes (number next (words "NOT " ++ t))) =
      some (Fragment.lexemes (number next t)) := rfl
  rw [Lexeme.truth_of_negated? (hwhole.alternatives_eq next) (hwhole.conjuncts_eq next) hnot]
  exact congrArg Truth.not (h b next hb)

theorem Reads.group (h : Reads answer t x) (hwhole : Whole (words "(" ++ t ++ words ")"))
    (hbalanced : Balanced t) : Reads answer (words "(" ++ t ++ words ")") x := by
  intro b next hb
  have hlexemes : Fragment.lexemes (number next (words "(" ++ t ++ words ")")) =
      .char '(' :: (Fragment.lexemes (number next t) ++ [.char ')']) := by
    rw [number_append, number_append, Fragment.lexemes_append, Fragment.lexemes_append]
    rfl
  have hinner : Lexeme.inner? (Fragment.lexemes (number next (words "(" ++ t ++ words ")"))) =
      some (Fragment.lexemes (number next t)) := by
    rw [hlexemes]
    simp [Lexeme.inner?, hbalanced next]
  have hnot : Lexeme.negated? (Fragment.lexemes (number next (words "(" ++ t ++ words ")"))) = none := by
    rw [hlexemes]
    rfl
  rw [Lexeme.truth_of_inner? (hwhole.alternatives_eq next) (hwhole.conjuncts_eq next) hnot hinner]
  exact h b next (by simpa using hb)

end

section

variable {α : Type} {answer : List Item → Truth} {xs : List α} {f : α → Template} {g : α → Truth}
  (h : ∀ x ∈ xs, Reads answer (f x) (g x))

include h

theorem truths_writeAll {b : Bindings} (b₀ : Bindings) (hb : b.Holds b₀.next (xs.flatMap fun x => (f x).values)) :
    ((b₀.writeAll (xs.map f)).1.map Fragment.lexemes).map
      (Lexeme.truth fun ls => answer (b.items ls)) = xs.map g := by
  induction xs generalizing b₀ with
  | nil => rfl
  | cons x xs ih =>
      rw [List.flatMap_cons, Bindings.holds_append] at hb
      have hrest := ih (fun y hy => h y (.tail _ hy)) (b₀.append (f x).values)
        (by rw [Bindings.next_append]; exact hb.2)
      rw [List.map_cons, Bindings.writeAll_cons, List.map_cons, List.map_cons, List.map_cons, hrest,
        h x (.head _) b b₀.next hb.1]

/-- Alternatives say what one of them says. -/
theorem Reads.any (hxs : xs ≠ []) (hsolid : ∀ x ∈ xs, Solid ['O', 'R'] (f x)) :
    Reads answer (join " OR " (xs.map f)) (Truth.any (xs.map g)) := by
  intro b next hb
  rw [values_join, List.flatMap_map] at hb
  have htruths := truths_writeAll h ⟨next, []⟩ hb
  match xs with
  | [x] => exact (h x (.head _) b next (by simpa using hb)).trans (by simp)
  | x :: y :: xs =>
      have hsplit := splitFrom_join (by decide) " OR " rfl (by simp)
        (List.forall_mem_map.mpr hsolid) ⟨next, []⟩
      rw [← htruths]
      exact Lexeme.truth_of_alternatives hsplit (by simp)

/-- Conjuncts say what all of them say. -/
theorem Reads.all (hxs : xs ≠ []) (hwhole : ∀ x ∈ xs, Whole (f x)) :
    Reads answer (join " AND " (xs.map f)) (Truth.all (xs.map g)) := by
  intro b next hb
  have hor : Solid ['O', 'R'] (join " AND " (xs.map f)) :=
    Solid.join rfl (by simpa using hxs) (List.forall_mem_map.mpr fun x hx => (hwhole x hx).or)
  rw [values_join, List.flatMap_map] at hb
  have htruths := truths_writeAll h ⟨next, []⟩ hb
  match xs with
  | [x] => exact (h x (.head _) b next (by simpa using hb)).trans (by simp)
  | x :: y :: xs =>
      have hsplit := splitFrom_join (by decide) " AND " rfl (by simp)
        (List.forall_mem_map.mpr fun x hx => (hwhole x hx).and) ⟨next, []⟩
      rw [← htruths]
      exact Lexeme.truth_of_conjuncts (hor.splitFrom_eq (by decide) next) hsplit (by simp)

end

end Template

end Docstore.Sql
