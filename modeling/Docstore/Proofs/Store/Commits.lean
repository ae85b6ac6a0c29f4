import Docstore.Proofs.Store.Server

/-!
# Transactions that succeed

What becomes of the database of a server where an operation succeeds. Nothing that has succeeded inside a transaction
has left it aborted, so that what the transaction sees in the end is what is committed (`transaction_yields`).
-/

namespace Docstore.Server

open Docstore.Engine
open Docstore.Sql (CatalogStatement Database Definition Outcome)

variable {α : Type} {s t : Server} {r : Request} {act : Database → Outcome Database} {committed : Database}
  {P : Database → Prop}

/-! ## Inside of transactions -/

/-- A transaction is running that sees a certain database, and nothing of it is committed yet. -/
def Running (committed : Database) (P : Database → Prop) (s : Server) : Prop :=
  s.committed = committed ∧ ∃ db savepoints, s.transaction = some ⟨some db, savepoints⟩ ∧ P db

theorem Running.mono {Q : Database → Prop} (h : ∀ db, P db → Q db) (hs : s.Running committed P) :
    s.Running committed Q := by
  obtain ⟨hcommitted, db, savepoints, htransaction, hP⟩ := hs
  exact ⟨hcommitted, db, savepoints, htransaction, h db hP⟩

/-- What a running transaction sees after an operation inside it that succeeds. -/
abbrev Yields (committed : Database) (P : Database → Prop) (op : Operation α) (Q : α → Database → Prop) : Prop :=
  op.Ensures Step (Running committed P) (fun a => Running committed (Q a)) fun _ _ => True

/-- What an operation yields may depend on the very database that it begins with. -/
theorem Yields.each {op : Operation α} {Q : α → Database → Prop}
    (h : ∀ db, P db → Yields committed (· = db) op Q) : Yields committed P op Q := by
  rintro s es r t ⟨hcommitted, db, savepoints, htransaction, hP⟩ hes hserves
  exact h db hP s es r t ⟨hcommitted, db, savepoints, htransaction, rfl⟩ hes hserves

theorem ask_yields {Q : r.Success → Database → Prop} (hact : act? r = some act)
    (h : ∀ db db' a, P db → act db = .ok db' → Answers db r a → Q a db') :
    Yields committed P (Operation.ask r) Q := by
  refine .ask (fun s a t hs hstep => ?_) fun _ _ _ _ _ => trivial
  obtain ⟨hcommitted, db, savepoints, htransaction, hP⟩ := hs
  obtain ⟨db₀, db', hview, hdb, ha, rfl⟩ := step_ok hact hstep
  rw [view, htransaction] at hview
  cases hview
  rw [put, htransaction]
  exact ⟨hcommitted, db', savepoints, rfl, h db db' a hP hdb ha⟩

theorem define_yields {d : Definition} {Q : Database → Prop} (h : ∀ db db', P db → db.define d = .ok db' → Q db') :
    Yields committed P (Catalog.define d) fun _ => Q :=
  ask_yields rfl fun db db' _ hdb hdefine _ => h db db' hdb hdefine

theorem query_yields {q : CatalogStatement} {Q : List Wire.Row → Database → Prop}
    (h : ∀ db db' rows, P db → db.execute q = .ok db' → db.Answers q rows → Q rows db') :
    Yields committed P (Catalog.query q) fun answer => Q answer.rows := by
  refine Operation.Ensures.bind (R := fun _ => Running committed P) (ask_yields rfl fun db db' _ hdb hprepare _ => ?_)
    fun types => ?_
  · rw [Database.eq_of_prepare hprepare]
    exact hdb
  · refine Operation.Ensures.bind (R := fun _ => Running committed P)
      (.ofResult (fun _ _ _ hs => hs) fun _ _ _ _ => trivial) fun arguments => ?_
    exact ask_yields rfl fun db db' a hdb hexecute ha => h db db' a.rows hdb hexecute ha

/-! ### Savepoints -/

variable {name : String}

theorem savepoint_yields : (Operation.scope (.savepoint name)).Ensures Step (Running committed P)
    (fun _ => Saved committed name some P) fun _ _ => True := by
  refine .ask (fun s a t hs hstep => ?_) fun _ _ _ _ _ => trivial
  obtain ⟨hcommitted, db, savepoints, htransaction, hP⟩ := hs
  cases hstep with
  | saved h =>
      cases htransaction.symm.trans h
      exact ⟨hcommitted, _, _, rfl, hP⟩
  | done hact => cases hact
  | listened h => cases h

theorem release_yields : Yields committed P (Operation.scope (.release name)) fun _ => P := by
  refine .ask (fun s a t hs hstep => ?_) fun _ _ _ _ _ => trivial
  obtain ⟨hcommitted, db, savepoints, htransaction, hP⟩ := hs
  cases hstep with
  | released h =>
      cases htransaction.symm.trans h
      exact ⟨hcommitted, _, _, rfl, hP⟩
  | done hact => cases hact
  | listened h => cases h

/-- A transaction that has gone back to its last savepoint is running again. -/
theorem rollbackTo_yields {current : Database → Option Database} :
    (Operation.scope (.rollbackTo name)).Ensures Step (Saved committed name current P)
      (fun _ => Running committed P) fun _ _ => True := by
  refine .ask (fun s a t hs hstep => ?_) fun _ _ _ _ _ => trivial
  obtain ⟨hcommitted, db, savepoints, htransaction, hP⟩ := hs
  cases hstep with
  | returned h hsaved =>
      cases htransaction.symm.trans h
      rw [List.dropWhile_cons_of_neg (by simp)] at hsaved
      cases hsaved
      exact ⟨hcommitted, _, _, rfl, hP⟩
  | done hact => cases hact
  | listened h => cases h

/-- A definition behind a savepoint has been carried out, or done nothing where it has failed in a way that is answered. -/
theorem attempt_yields {d : Definition} {accepts : Error → Bool} {Q : Option Error → Database → Prop}
    (hdone : ∀ db db', P db → db.define d = .ok db' → Q none db')
    (hfailed : ∀ db e, P db → accepts e = true → IsTrue e (db.define d) → Q (some e) db) :
    Yields committed P (Operation.attempt name (.define d) accepts) Q := by
  refine .attempt (R := Saved committed name some P) (D := Running committed (Q none))
    (F := fun e => Saved committed name (fun _ => none) fun db => P db ∧ IsTrue e (db.define d))
    savepoint_yields ?_ release_yields (fun e haccepts => ?_) fun _ _ _ _ _ _ => trivial
  · refine .ask (fun s a t hs hstep => ?_) fun s f t hs hstep => ?_
    · obtain ⟨hcommitted, db, savepoints, htransaction, hP⟩ := hs
      obtain ⟨db₀, db', hview, hdb, -, rfl⟩ := step_ok rfl hstep
      rw [view, htransaction] at hview
      cases hview
      rw [put, htransaction]
      exact ⟨hcommitted, db', _, rfl, hdone db db' hP hdb⟩
    · obtain ⟨hcommitted, db, savepoints, htransaction, hP⟩ := hs
      rcases step_failed rfl hstep with ⟨w, hw, rfl, htells⟩ | ⟨hnone, -⟩
      · cases htransaction.symm.trans hw
        exact ⟨_, rfl, hcommitted, db, savepoints, rfl, hP, htells⟩
      · cases htransaction.symm.trans hnone
  · exact rollbackTo_yields.mono (fun _ hs => hs)
      (fun _ _ hs => hs.mono fun db h => hfailed db e h.1 haccepts h.2) fun _ _ h => h

/-! ## Around transactions -/

/-- Operations on a server that nothing else uses, one after another, each with its own transactions. -/
abbrev Brings (P : Database → Prop) (op : Operation α) (Q : α → Database → Prop) : Prop :=
  op.Ensures Step (Idle P) (fun a => Idle (Q a)) fun _ _ => True

theorem Brings.each {op : Operation α} {Q : α → Database → Prop} (h : ∀ db, P db → Brings (· = db) op Q) :
    Brings P op Q := by
  rintro s es r t ⟨hidle, hP⟩ hes hserves
  exact h s.committed hP s es r t ⟨hidle, rfl⟩ hes hserves

theorem start_yields : (Operation.scope .start).Ensures Step (Idle (· = committed))
    (fun _ => Running committed (· = committed)) fun _ _ => True := by
  refine .ask (fun s a t hs hstep => ?_) fun _ _ _ _ _ => trivial
  obtain ⟨-, rfl⟩ := hs
  cases hstep with
  | started h => exact ⟨rfl, _, _, rfl, rfl⟩
  | done hact => cases hact
  | listened h => cases h

theorem commit_yields : (Operation.scope .commit).Ensures Step (Running committed P) (fun _ => Idle P)
    fun _ _ => True := by
  refine .ask (fun s a t hs hstep => ?_) fun _ _ _ _ _ => trivial
  obtain ⟨-, db, savepoints, htransaction, hP⟩ := hs
  cases hstep with
  | committed h =>
      cases htransaction.symm.trans h
      exact ⟨rfl, hP⟩
  | done hact => cases hact
  | listened h => cases h

/-- What a transaction yields is committed. -/
theorem transaction_yields {body : Operation α} {Q : α → Database → Prop}
    (hbody : Yields committed (· = committed) body Q) :
    Brings (· = committed) (Operation.transaction body) Q := by
  have hopened : (Operation.onFailure (Operation.undo .rollback) (do Operation.scope .start; body)).Ensures Step
      (Idle (· = committed)) (fun a => Running committed (Q a)) fun _ _ => True :=
    .undoing (F := fun _ _ => True) (start_yields.bind fun _ => hbody) fun _ _ _ _ _ _ => trivial
  exact hopened.bind fun a => commit_yields.bind fun _ => .pure fun _ hs => hs

theorem connect_brings {store : Store} : Brings P (store.connect .pooled) fun _ => P :=
  connect_idle.mono (fun _ hs => hs) (fun _ _ hs => hs) fun _ _ _ => trivial

theorem announce_brings {store : Store} {className : Option String} :
    Brings P (store.announce className) fun _ => P :=
  announce_idle.mono (fun _ hs => hs) (fun _ _ hs => hs) fun _ _ _ => trivial

end Docstore.Server
