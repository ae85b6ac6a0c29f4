import Docstore.Proofs.Engine.Postconditions
import Docstore.Proofs.Store.Catalog
import Docstore.Proofs.Store.Database

/-!
# A server with a database

What a server replies to a store that uses it alone, and what becomes of its database. Anything may fail at any time,
but a failure that says that a table or a column is missing, or that a column is there, is right. A failed statement
aborts its transaction, and an aborted transaction changes nothing, however it ends.
-/

namespace Docstore

open Docstore.Engine Docstore.Wire
open Docstore.Sql (CatalogStatement Database Definition Outcome)

/-! ## Failures on this side -/

def Fault.isMissing : Fault → Bool
  | .error e => e.isMissing
  | .crash => false

/-- A result that does not blame a table or a column for being missing. -/
def Blameless {α : Type} (r : Result α) : Prop := ∀ f, r = .error f → f.isMissing = false

namespace Blameless

variable {α β : Type}

theorem ok (a : α) : Blameless (.ok a) := nofun

theorem refuse (reason : String) : Blameless (Wire.refuse reason : Result α) := by
  rintro f ⟨⟩
  rfl

theorem crash : Blameless (.error .crash : Result α) := by
  rintro f ⟨⟩
  rfl

theorem map {r : Result α} (g : α → β) (h : Blameless r) : Blameless (r.map g) := by
  rintro f hf
  cases r with
  | ok a => cases hf
  | error f' =>
      cases hf
      exact h f rfl

theorem ite {condition : Prop} [Decidable condition] {r r' : Result α} (h : Blameless r) (h' : Blameless r') :
    Blameless (if condition then r else r') := by
  split
  · exact h
  · exact h'

theorem textFor (type : DataType) (s : String) : Blameless (textFor type s) := by
  rw [Wire.textFor.eq_def]
  split
  · split
    · exact ok _
    · exact refuse _
  · split
    · exact ok _
    · exact refuse _
  · split
    · exact ok _
    · exact refuse _
  · exact ite (ok _) (ite (ok _) (refuse _))
  · exact ok _

theorem encode (type : DataType) (v : Value) : Blameless (encode type v) := by
  have hnumber : ∀ width i, Blameless (integer width i) := fun _ _ => ite (ok _) (refuse _)
  have hwhole : ∀ width x, Blameless (wholeNumber width x) := fun _ _ => ite (ok _) (refuse _)
  refine ite (refuse _) (ite (ok _) ?_)
  cases v with
  | string s => exact (textFor type s).map _
  | strings items => exact ite (ok _) crash
  | integer i => cases type <;> first | exact ok _ | exact (hnumber _ _).map _
  | number x => cases type <;> first | exact ok _ | exact (hwhole _ _).map _
  | timestamp t => cases type <;> exact ok _
  | polygon ps => exact ite ((hnumber _ _).map _) (ok _)
  | _ => exact ok _

theorem mapM {f : α → Result β} {xs : List α} (h : ∀ x, Blameless (f x)) : Blameless (xs.mapM f) := by
  induction xs with
  | nil => exact ok _
  | cons x xs ih =>
      rw [List.mapM_cons]
      intro fault hfault
      cases hx : f x with
      | error f' =>
          rw [hx] at hfault
          cases hfault
          exact h x _ hx
      | ok b =>
          rw [hx] at hfault
          cases hxs : xs.mapM f with
          | error f' =>
              rw [hxs] at hfault
              cases hfault
              exact ih _ hxs
          | ok bs =>
              rw [hxs] at hfault
              cases hfault

theorem arguments (q : Sql.CatalogStatement) (types : List DataType) :
    Blameless ((Prepared.catalog q).arguments types) :=
  ite (mapM fun _ => (encode _ _).map _) (refuse _)

end Blameless

/-! ## The server -/

/-- A transaction: the database as it sees it, none once a statement has failed, and its savepoints from the last. -/
structure OpenTransaction where
  current : Option Database
  savepoints : List (String × Database)

structure Server where
  committed : Database
  transaction : Option OpenTransaction

namespace Server

/-- The database that statements see. -/
def view (s : Server) : Option Database :=
  match s.transaction with
  | none => some s.committed
  | some w => w.current

/-- The database is changed, for good where there is no transaction. -/
def put (s : Server) (db : Database) : Server :=
  match s.transaction with
  | none => ⟨db, none⟩
  | some w => ⟨s.committed, some { w with current := some db }⟩

/-- What a statement does to the database that it sees. -/
def act? : Request → Option (Database → Outcome Database)
  | .send .pooled (.define d) => some (·.define d)
  | .prepare .pooled (.catalog q) => some fun db => (db.prepare q).map fun _ => db
  | .execute .pooled (.catalog q) _ => some (·.execute q)
  | _ => none

/-- What a reply may say of the database. -/
def Answers (db : Database) : (r : Request) → r.Success → Prop
  | .execute _ (.catalog q) _, (answer : Answer) => db.Answers q answer.rows
  | _, _ => True

/-- What comes of a request, if it is a statement and sees a database. -/
def outcome (r : Request) (view : Option Database) : Outcome Database :=
  match act? r, view with
  | some act, some db => act db
  | _, _ => .error none

/-- What an error says of tables and columns is true. -/
def IsTrue (e : Error) (outcome : Outcome Database) : Prop :=
  ∀ state ∈ [SqlState.undefinedTable, .undefinedColumn, .duplicateColumn],
    e.hasState state = true → outcome = .error (some state)

/-- Whether a request is carried out inside a transaction, if there is one. -/
def isPart : Request → Bool
  | .send .pooled (.scope .start) | .send .pooled (.scope .commit) | .send .pooled (.scope .rollback) => false
  | .send .pooled _ | .prepare .pooled _ | .execute .pooled _ _ => true
  | _ => false

/-- A request and its reply, and the server after them. Sessions are left out. -/
inductive Step (s : Server) : Exchange → Server → Prop
  | listened {r : Request} {reply : r.Reply} (h : r.connection = .listener) : Step s ⟨r, reply⟩ s
  /-- What the connection was used for before is over. -/
  | connected {reply : (Request.connect .pooled).Reply} : Step s ⟨.connect .pooled, reply⟩ ⟨s.committed, none⟩
  | started (h : s.transaction = none) :
      Step s ⟨.send .pooled (.scope .start), .ok ()⟩ ⟨s.committed, some ⟨some s.committed, []⟩⟩
  | unstarted {f : EngineFault} (h : s.transaction = none) : Step s ⟨.send .pooled (.scope .start), .error f⟩ s
  | committed {w : OpenTransaction} (h : s.transaction = some w) :
      Step s ⟨.send .pooled (.scope .commit), .ok ()⟩ ⟨w.current.getD s.committed, none⟩
  /-- Where the reply to it is lost, a transaction may have been committed or not. -/
  | uncommitted {w : OpenTransaction} {f : EngineFault} {db : Database} (h : s.transaction = some w)
      (hdb : db = s.committed ∨ w.current = some db) :
      Step s ⟨.send .pooled (.scope .commit), .error f⟩ ⟨db, none⟩
  | rolledBack {reply : (Request.send .pooled (.scope .rollback)).Reply} :
      Step s ⟨.send .pooled (.scope .rollback), reply⟩ ⟨s.committed, none⟩
  | saved {name : String} {db : Database} {savepoints : List (String × Database)}
      (h : s.transaction = some ⟨some db, savepoints⟩) :
      Step s ⟨.send .pooled (.scope (.savepoint name)), .ok ()⟩
        ⟨s.committed, some ⟨some db, (name, db) :: savepoints⟩⟩
  | released {name : String} {db : Database} {savepoints : List (String × Database)}
      (h : s.transaction = some ⟨some db, savepoints⟩) :
      Step s ⟨.send .pooled (.scope (.release name)), .ok ()⟩
        ⟨s.committed, some ⟨some db, (savepoints.dropWhile (·.1 ≠ name)).tail⟩⟩
  | returned {name : String} {db : Database} {w : OpenTransaction} {savepoints : List (String × Database)}
      (h : s.transaction = some w) (hsaved : w.savepoints.dropWhile (·.1 ≠ name) = (name, db) :: savepoints) :
      Step s ⟨.send .pooled (.scope (.rollbackTo name)), .ok ()⟩
        ⟨s.committed, some ⟨some db, (name, db) :: savepoints⟩⟩
  | done {r : Request} {a : r.Success} {act : Database → Outcome Database} {db db' : Database}
      (hact : act? r = some act) (hview : s.view = some db) (hdb : act db = .ok db') (ha : Answers db r a) :
      Step s ⟨r, .ok a⟩ (s.put db')
  | failed {r : Request} {f : EngineFault} {w : OpenTransaction} (hr : isPart r = true) (h : s.transaction = some w)
      (hf : IsTrue (.ofCause (.driver f)) (outcome r w.current)) :
      Step s ⟨r, .error f⟩ ⟨s.committed, some { w with current := none }⟩
  /-- Outside of a transaction, a statement whose reply is lost may have been carried out or not. -/
  | failedAlone {r : Request} {f : EngineFault} {db : Database} (hr : isPart r = true) (h : s.transaction = none)
      (hf : IsTrue (.ofCause (.driver f)) (outcome r (some s.committed)))
      (hdb : db = s.committed ∨ outcome r (some s.committed) = .ok db) :
      Step s ⟨r, .error f⟩ ⟨db, none⟩

/-! ## Steps -/

variable {s t : Server} {r : Request} {act : Database → Outcome Database}

theorem isPart_of_act (h : act? r = some act) : isPart r = true := by
  cases r with
  | connect c => cases h
  | send c command => cases c <;> cases command <;> first | rfl | cases h
  | prepare c p => cases c <;> cases p <;> first | rfl | cases h
  | execute c p arguments => cases c <;> cases p <;> first | rfl | cases h

theorem step_ok {a : r.Success} (hact : act? r = some act) (h : Step s ⟨r, .ok a⟩ t) :
    ∃ db db', s.view = some db ∧ act db = .ok db' ∧ Answers db r a ∧ t = s.put db' := by
  cases h with
  | done hact' hview hdb ha =>
      cases hact.symm.trans hact'
      exact ⟨_, _, hview, hdb, ha, rfl⟩
  | listened hconnection =>
      have hpart := isPart_of_act hact
      cases r with
      | connect c => cases hpart
      | send c command | prepare c p | execute c p arguments =>
          cases hconnection
          cases hpart
  | _ => cases hact

theorem step_failed {f : EngineFault} (hact : act? r = some act) (h : Step s ⟨r, .error f⟩ t) :
    (∃ w, s.transaction = some w ∧ t = ⟨s.committed, some { w with current := none }⟩ ∧
        IsTrue (.ofCause (.driver f)) (outcome r w.current)) ∨
      s.transaction = none ∧ t.transaction = none ∧ IsTrue (.ofCause (.driver f)) (act s.committed) ∧
        (t.committed = s.committed ∨ act s.committed = .ok t.committed) := by
  cases h with
  | failed hr hw hf => exact .inl ⟨_, hw, rfl, hf⟩
  | failedAlone hr hw hf hdb =>
      have houtcome : outcome r (some s.committed) = act s.committed := by simp only [outcome, hact]
      rw [houtcome] at hf hdb
      exact .inr ⟨hw, rfl, hf, hdb⟩
  | listened hconnection =>
      have hpart := isPart_of_act hact
      cases r with
      | connect c => cases hpart
      | send c command | prepare c p | execute c p arguments =>
          cases hconnection
          cases hpart
  | _ => cases hact

/-! ## Inside and outside of transactions -/

/-- A transaction is open, nothing of which is committed yet, and unless it is aborted it sees a certain database. -/
def Within (committed : Database) (P : Database → Prop) (s : Server) : Prop :=
  s.committed = committed ∧ ∃ w, s.transaction = some w ∧ ∀ db, w.current = some db → P db

/-- There is no transaction, and the database is a certain one. -/
def Idle (P : Database → Prop) (s : Server) : Prop := s.transaction = none ∧ P s.committed

theorem Within.mono {committed : Database} {P Q : Database → Prop} (h : ∀ db, P db → Q db) (hs : s.Within committed P) :
    s.Within committed Q := by
  obtain ⟨hcommitted, w, hw, hP⟩ := hs
  exact ⟨hcommitted, w, hw, fun db hdb => h db (hP db hdb)⟩

theorem Idle.mono {P Q : Database → Prop} (h : ∀ db, P db → Q db) (hs : s.Idle P) : s.Idle Q := ⟨hs.1, h _ hs.2⟩

/-- Operations that are carried out inside a transaction. -/
abbrev Inside {α : Type} (committed : Database) (P : Database → Prop) (op : Operation α) (Q : α → Database → Prop)
    (E : Database → Prop) : Prop :=
  op.Ensures Step (Within committed P) (fun a => Within committed (Q a)) fun _ => Within committed E

variable {committed : Database} {P : Database → Prop}

theorem ask_inside {Q : r.Success → Database → Prop} {E : Database → Prop} (hact : act? r = some act)
    (h : ∀ db db' a, P db → act db = .ok db' → Answers db r a → Q a db') :
    Inside committed P (Operation.ask r) Q E := by
  refine .ask (fun s a t hs hstep => ?_) fun s f t hs hstep => ?_
  · obtain ⟨hcommitted, w, hw, hP⟩ := hs
    obtain ⟨db, db', hview, hdb, ha, rfl⟩ := step_ok hact hstep
    rw [view, hw] at hview
    rw [put, hw]
    refine ⟨hcommitted, _, rfl, fun db'' hdb'' => ?_⟩
    cases hdb''
    exact h db db' a (hP db hview) hdb ha
  · obtain ⟨hcommitted, w, hw, -⟩ := hs
    rcases step_failed hact hstep with ⟨w', -, rfl, -⟩ | ⟨hnone, -⟩
    · exact ⟨hcommitted, _, rfl, nofun⟩
    · cases hw.symm.trans hnone

/-- A definition that fails has aborted its transaction, so that anything holds of what that sees. -/
theorem define_inside {d : Definition} {Q E : Database → Prop} (h : ∀ db db', P db → db.define d = .ok db' → Q db') :
    Inside committed P (Catalog.define d) (fun _ => Q) E :=
  ask_inside rfl fun db db' _ hdb hdefine _ => h db db' hdb hdefine

theorem query_inside {q : CatalogStatement} {Q : List Wire.Row → Database → Prop}
    (h : ∀ db db' rows, P db → db.execute q = .ok db' → db.Answers q rows → Q rows db') :
    Inside committed P (Catalog.query q) (fun answer => Q answer.rows) fun _ => True := by
  refine Operation.Ensures.bind (R := fun _ => Within committed P) (ask_inside rfl fun db db' _ hdb hprepare _ => ?_)
    fun types => ?_
  · cases hprepared : db.prepare q with
    | ok u =>
        rw [hprepared] at hprepare
        cases hprepare
        exact hdb
    | error state =>
        rw [hprepared] at hprepare
        cases hprepare
  · refine Operation.Ensures.bind (R := fun _ => Within committed P) ?_ fun arguments => ?_
    · exact .ofResult (fun _ _ _ hs => hs) fun _ _ _ hs => hs.mono fun _ _ => trivial
    · exact ask_inside rfl fun db db' a hdb hexecute ha => h db db' a.rows hdb hexecute ha

theorem read_inside {q : CatalogStatement} (hq : q.writes = false) :
    Inside committed P (Catalog.query q) (fun answer db => P db ∧ db.Answers q answer.rows) fun _ => True :=
  query_inside (Q := fun rows db => P db ∧ db.Answers q rows) fun db db' rows hdb hexecute ha => by
    cases Database.eq_of_execute hq hexecute
    exact ⟨hdb, ha⟩

/-- What holds of the database before a transaction holds as long as nothing is done. -/
theorem Inside.beginning {α : Type} {op : Operation α} {Q : α → Database → Prop} {E : Database → Prop}
    (hP : P committed) (h : Inside committed P op Q E) : Inside committed (· = committed) op Q E := by
  refine h.mono (fun s (hs : Within committed (· = committed) s) => hs.mono fun db hdb => ?_) (fun _ _ hs => hs)
    fun _ _ hs => hs
  rw [hdb]
  exact hP

/-! ## Savepoints -/

/-- A transaction with a savepoint of a name, at which it saw a certain database, and what it sees now. -/
def Saved (committed : Database) (name : String) (current : Database → Option Database) (P : Database → Prop)
    (s : Server) : Prop :=
  s.committed = committed ∧ ∃ db savepoints, s.transaction = some ⟨current db, (name, db) :: savepoints⟩ ∧ P db

variable {name : String} {E : Fault → Server → Prop}

theorem savepoint_inside : (Operation.scope (.savepoint name)).Ensures Step (Within committed P)
    (fun _ => Saved committed name some P) fun _ => Within committed fun _ => True := by
  refine .ask (fun s a t hs hstep => ?_) fun s f t hs hstep => ?_
  · obtain ⟨hcommitted, w, hw, hP⟩ := hs
    cases hstep with
    | saved h =>
        cases hw.symm.trans h
        exact ⟨hcommitted, _, _, rfl, hP _ rfl⟩
    | done hact => cases hact
    | listened h => cases h
  · obtain ⟨hcommitted, w, hw, -⟩ := hs
    cases hstep with
    | failed hr h hf => exact ⟨hcommitted, _, rfl, fun _ _ => trivial⟩
    | failedAlone hr h hf hdb => cases hw.symm.trans h
    | listened h => cases h

theorem release_inside : (Operation.scope (.release name)).Ensures Step (Within committed P)
    (fun _ => Within committed P) fun _ => Within committed fun _ => True := by
  refine .ask (fun s a t hs hstep => ?_) fun s f t hs hstep => ?_
  · obtain ⟨hcommitted, w, hw, hP⟩ := hs
    cases hstep with
    | released h =>
        cases hw.symm.trans h
        exact ⟨hcommitted, _, rfl, hP⟩
    | done hact => cases hact
    | listened h => cases h
  · obtain ⟨hcommitted, w, hw, -⟩ := hs
    cases hstep with
    | failed hr h hf => exact ⟨hcommitted, _, rfl, fun _ _ => trivial⟩
    | failedAlone hr h hf hdb => cases hw.symm.trans h
    | listened h => cases h

/-- A transaction that goes back to its last savepoint sees what it saw there. -/
theorem step_rollbackTo {reply : (Request.send .pooled (.scope (.rollbackTo name))).Reply}
    {current : Database → Option Database} (hs : s.Saved committed name current P)
    (h : Step s ⟨.send .pooled (.scope (.rollbackTo name)), reply⟩ t) :
    t.Within committed fun db => reply = .ok () → P db := by
  obtain ⟨hcommitted, db, savepoints, htransaction, hP⟩ := hs
  cases h with
  | returned h hsaved =>
      cases htransaction.symm.trans h
      rw [List.dropWhile_cons_of_neg (by simp)] at hsaved
      cases hsaved
      refine ⟨hcommitted, _, rfl, fun db' hdb' _ => ?_⟩
      cases hdb'
      exact hP
  | failed hr h hf => exact ⟨hcommitted, _, rfl, fun _ hdb => nomatch hdb⟩
  | failedAlone hr h hf hdb => cases htransaction.symm.trans h
  | done hact => cases hact
  | listened h => cases h

/-- A definition behind a savepoint is carried out, or has failed in a way that is answered and done nothing. -/
theorem attempt_inside {d : Definition} {accepts : Error → Bool} {Q : Option Error → Database → Prop}
    (hdone : ∀ db db', P db → db.define d = .ok db' → Q none db')
    (hfailed : ∀ db e, P db → accepts e = true → IsTrue e (db.define d) → Q (some e) db) :
    Inside committed P (Operation.attempt name (.define d) accepts) Q fun _ => True := by
  refine .attempt (R := Saved committed name some P) (D := Within committed (Q none))
    (F := fun e => Saved committed name (fun _ => none) fun db => P db ∧ IsTrue e (db.define d))
    savepoint_inside ?_ release_inside (fun e haccepts => ?_) fun e s reply t hs hstep => ?_
  · refine .ask (fun s a t hs hstep => ?_) fun s f t hs hstep => ?_
    · obtain ⟨hcommitted, db, savepoints, htransaction, hP⟩ := hs
      obtain ⟨db₀, db', hview, hdb, -, rfl⟩ := step_ok rfl hstep
      rw [view, htransaction] at hview
      cases hview
      rw [put, htransaction]
      refine ⟨hcommitted, _, rfl, fun db'' hdb'' => ?_⟩
      cases hdb''
      exact hdone db db' hP hdb
    · obtain ⟨hcommitted, db, savepoints, htransaction, hP⟩ := hs
      rcases step_failed rfl hstep with ⟨w, hw, rfl, htells⟩ | ⟨hnone, -⟩
      · cases htransaction.symm.trans hw
        exact ⟨_, rfl, hcommitted, db, savepoints, rfl, hP, htells⟩
      · cases htransaction.symm.trans hnone
  · refine .ask (fun s a t hs hstep => ?_) fun s f t hs hstep => ?_
    · refine (step_rollbackTo hs hstep).mono fun db h => ?_
      obtain ⟨hP, htrue⟩ := h rfl
      exact hfailed db e hP haccepts htrue
    · exact (step_rollbackTo hs hstep).mono fun _ _ => trivial
  · exact (step_rollbackTo hs hstep).mono fun _ _ => trivial

/-! ## Transactions -/

theorem start_within : (Operation.scope .start).Ensures Step (Idle (· = committed))
    (fun _ => Within committed (· = committed)) fun _ s => s.committed = committed := by
  refine .ask (fun s a t hs hstep => ?_) fun s f t hs hstep => ?_
  · obtain ⟨-, rfl⟩ := hs
    cases hstep with
    | started h => exact ⟨rfl, _, rfl, fun db hdb => (Option.some.inj hdb).symm⟩
    | done hact => cases hact
    | listened h => cases h
  · obtain ⟨-, rfl⟩ := hs
    cases hstep with
    | unstarted h => rfl
    | failed hr h hf => cases hr
    | failedAlone hr h hf hdb => cases hr
    | listened h => cases h

theorem step_rollback {reply : (Request.send .pooled (.scope .rollback)).Reply}
    (h : Step s ⟨.send .pooled (.scope .rollback), reply⟩ t) : t = ⟨s.committed, none⟩ := by
  cases h with
  | rolledBack => rfl
  | failed hr h hf => cases hr
  | failedAlone hr h hf hdb => cases hr
  | done hact => cases hact
  | listened h => cases h

/-- An aborted transaction that is committed leaves the database as it was; so may one whose reply is lost. -/
theorem commit_idle (hP : P committed) : (Operation.scope .commit).Ensures Step (Within committed P)
    (fun _ => Idle P) fun _ => Idle P := by
  refine .ask (fun s a t hs hstep => ?_) fun s f t hs hstep => ?_
  · obtain ⟨rfl, w, hw, hcurrent⟩ := hs
    cases hstep with
    | committed h =>
        cases hw.symm.trans h
        refine ⟨rfl, ?_⟩
        cases hview : w.current with
        | none => exact hP
        | some db => exact hcurrent db hview
    | done hact => cases hact
    | listened h => cases h
  · obtain ⟨rfl, w, hw, hcurrent⟩ := hs
    cases hstep with
    | uncommitted h hdb =>
        cases hw.symm.trans h
        refine ⟨rfl, ?_⟩
        rcases hdb with rfl | hdb
        · exact hP
        · exact hcurrent _ hdb
    | failed hr h hf => cases hr
    | failedAlone hr h hf hdb => cases hr
    | listened h => cases h

/-- A transaction leaves what it makes of the database, or the database as it was. -/
theorem transaction_idle {α : Type} {body : Operation α} {I : Database → Prop} (hP : ∀ db, P db → I db)
    (hbody : ∀ before, P before → Inside before (· = before) body (fun _ => I) fun _ => True) :
    (Operation.transaction body).Ensures Step (Idle P) (fun _ => Idle I) fun _ => Idle I := by
  intro s es r t hs hes hserves
  have hbefore : I s.committed := hP _ hs.2
  have hinside : (do Operation.scope .start; body : Operation α).Ensures Step (Idle (· = s.committed))
      (fun _ => Within s.committed I) fun _ u => u.committed = s.committed :=
    start_within.bind fun _ => (hbody s.committed hs.2).mono (fun _ h => h) (fun _ _ h => h) fun _ _ h => h.1
  have hopened : (Operation.onFailure (Operation.undo .rollback) (do Operation.scope .start; body)).Ensures Step
      (Idle (· = s.committed)) (fun _ => Within s.committed I) fun _ => Idle I := by
    refine .undoing hinside fun f u reply t hu hstep => ?_
    rw [step_rollback hstep]
    refine ⟨rfl, ?_⟩
    rw [hu]
    exact hbefore
  have hrun : (Operation.transaction body).Ensures Step (Idle (· = s.committed)) (fun _ => Idle I) fun _ => Idle I :=
    hopened.bind fun _ => (commit_idle hbefore).bind fun _ => .pure fun _ h => h
  exact hrun s es r t ⟨hs.1, rfl⟩ hes hserves

/-! ## Outside of transactions -/

theorem step_listener {reply : r.Reply} (hr : r.connection = .listener) (h : Step s ⟨r, reply⟩ t) : t = s := by
  cases h with
  | listened h => rfl
  | done hact =>
      cases r with
      | connect c => cases hact
      | send c command | prepare c p | execute c p arguments =>
          cases hr
          cases hact
  | failed hpart | failedAlone hpart =>
      cases r with
      | connect c => cases hpart
      | send c command | prepare c p | execute c p arguments =>
          cases hr
          cases hpart
  | _ => cases hr

theorem connect_idle {store : Store} :
    (store.connect .pooled).Ensures Step (Idle P) (fun _ => Idle P) fun _ => Idle P := by
  intro s es r t hs hes hserves
  have hkept : t.Idle P := by
    rw [Store.connect] at hes
    split at hes
    · obtain ⟨rfl, -⟩ := Program.converses_done.mp hes
      cases hserves
      exact hs
    · obtain ⟨reply, xs, ys, rfl, hxs, hys⟩ := Program.converses_bind.mp hes
      have hnothing : ys = [] := by
        cases reply <;> exact (Program.converses_done.mp hys).1
      rw [Program.converses_request.mp hxs, hnothing] at hserves
      cases Service.serves_singleton.mp hserves with
      | connected => exact ⟨rfl, hs.2⟩
      | listened h => cases h
      | done hact => cases hact
      | failed hr | failedAlone hr => cases hr
  cases r with
  | ok a => exact hkept
  | error f => exact hkept

theorem serves_listener {es : List Exchange} (hes : ∀ e ∈ es, e.request.connection = .listener)
    (h : Service.Serves Step s es t) : t = s := by
  induction h with
  | nil s => rfl
  | cons hstep _ ih =>
      rw [ih fun e he => hes e (.tail _ he)]
      exact step_listener (hes _ (.head _)) hstep

theorem announce_idle {store : Store} {className : Option String} :
    (store.announce className).Ensures Step (Idle P) (fun _ => Idle P) fun _ => Idle P := by
  intro s es r t hs hes hserves
  obtain ⟨rfl, hannounced⟩ := Store.converses_announce.mp hes
  have hconnection : ∀ e ∈ es, e.request.connection = .listener := by
    cases hannounced with
    | silent => exact List.forall_mem_nil _
    | published h hpublication => cases hpublication <;> simp [Exchange.ofSuccess, Request.connection]
  cases serves_listener hconnection hserves
  exact hs

/-- A statement that only reads has not changed anything, even where it fails. -/
theorem ask_idle (hact : act? r = some act) (hreads : ∀ db db', act db = .ok db' → db' = db) :
    (Operation.ask r).Ensures Step (Idle P) (fun a => Idle fun db => P db ∧ Answers db r a)
      fun f => Idle fun db => P db ∧ ∃ e, f = .error e ∧ IsTrue e (act db) := by
  refine .ask (fun s a t hs hstep => ?_) fun s f t hs hstep => ?_
  · obtain ⟨hidle, hP⟩ := hs
    obtain ⟨db, db', hview, hdb, ha, rfl⟩ := step_ok hact hstep
    rw [view, hidle] at hview
    cases hview
    cases hreads _ _ hdb
    rw [put, hidle]
    exact ⟨rfl, hP, ha⟩
  · obtain ⟨hidle, hP⟩ := hs
    rcases step_failed hact hstep with ⟨w, hw, -⟩ | ⟨-, ht, htrue, hcommitted⟩
    · cases hidle.symm.trans hw
    · have hsame : t.committed = s.committed := hcommitted.elim id (hreads _ _)
      refine ⟨ht, ?_⟩
      rw [hsame]
      exact ⟨hP, _, rfl, htrue⟩

/-- Where reading finds that something is missing, there is no catalog. -/
theorem read_idle {q : CatalogStatement} (hq : q.writes = false) {Q : List Row → Database → Prop}
    (h : ∀ db rows, P db → db.Answers q rows → Q rows db) :
    (Catalog.query q).Ensures Step (Idle P) (fun answer => Idle (Q answer.rows))
      fun f => Idle fun db => P db ∧ (f.isMissing = true → db.tables Schema.catalogTable = none) := by
  have hmissing : ∀ {db : Database} {result : Outcome Database} {f : Fault},
      (∀ state, result = .error state → db.tables Schema.catalogTable = none) →
      (∃ e, f = .error e ∧ IsTrue e result) → f.isMissing = true → db.tables Schema.catalogTable = none := by
    rintro db result f hrefused ⟨e, rfl, htrue⟩ hblamed
    rcases Bool.or_eq_true_iff.mp hblamed with hstate | hstate
    · exact hrefused _ (htrue _ (by decide) hstate)
    · exact hrefused _ (htrue _ (by decide) hstate)
  refine Operation.Ensures.bind (R := fun _ => Idle P) ?_ fun types => ?_
  · refine (ask_idle rfl fun db db' hdb => ?_).mono (fun _ hs => hs) (fun _ _ hs => hs.mono fun _ h => h.1)
      fun f s hs => hs.mono fun db hdb => ⟨hdb.1, hmissing (fun state hstate => ?_) hdb.2⟩
    · exact Database.eq_of_prepare hdb
    · exact Database.missing_of_prepare hstate
  · refine Operation.Ensures.bind (R := fun _ => Idle P) ?_ fun arguments => ?_
    · refine .ofResult (fun _ _ _ hs => hs) fun f s hf hs => hs.mono fun db hdb => ⟨hdb, fun hblamed => ?_⟩
      rw [Blameless.arguments q types f hf] at hblamed
      cases hblamed
    · refine (ask_idle rfl fun db db' hdb => ?_).mono (fun _ hs => hs) (fun a _ hs => hs.mono fun db hdb => ?_)
        fun f s hs => hs.mono fun db hdb => ⟨hdb.1, hmissing (fun state hstate => ?_) hdb.2⟩
      · exact Database.eq_of_execute hq hdb
      · exact h db a.rows hdb.1 hdb.2
      · exact Database.missing_of_execute hq hstate

/-! ## Transactions that succeed -/

/-- A transaction without savepoints that sees a certain database. -/
def opened (committed db : Database) : Server := ⟨committed, some ⟨some db, []⟩⟩

section Leading

variable {db db' : Database} {store : Store}

theorem connect_leads (h : store.closed = false) :
    (store.connect .pooled).Leads Step ⟨db, none⟩ (.ok ()) ⟨db, none⟩ :=
  ⟨[.ofSuccess (.connect .pooled) ()], Store.converses_connect_ok.mpr ⟨h, rfl⟩, Service.serves_singleton.mpr .connected⟩

theorem define_leads {d : Definition} (h : db.define d = .ok db') :
    (Catalog.define d).Leads Step (opened committed db) (.ok ()) (opened committed db') :=
  .ask (.done rfl rfl h trivial)

theorem query_leads {q : CatalogStatement} (types : List DataType) {arguments : List Argument} (answer : Answer)
    (harguments : (Prepared.catalog q).arguments types = .ok arguments) (hexecute : db.execute q = .ok db')
    (ha : db.Answers q answer.rows) :
    (Catalog.query q).Leads Step (opened committed db) (.ok answer) (opened committed db') := by
  have hprepare : ((db.prepare q).map fun _ => db) = .ok db := by
    cases hprepared : db.prepare q with
    | ok u => rfl
    | error state =>
        rw [Database.execute, hprepared] at hexecute
        cases hexecute
  exact .bind (.ask (a := types) (.done rfl rfl hprepare trivial))
    (.bind (.ofResult harguments) (.ask (.done rfl rfl hexecute ha)))

/-- A statement that only reads is answered outside of transactions too. -/
theorem read_leads {q : CatalogStatement} (types : List DataType) {arguments : List Argument} (answer : Answer)
    (harguments : (Prepared.catalog q).arguments types = .ok arguments) (hq : q.writes = false)
    (hcatalog : (db.tables Schema.catalogTable).isSome) (ha : db.Answers q answer.rows) :
    (Catalog.query q).Leads Step ⟨db, none⟩ (.ok answer) ⟨db, none⟩ := by
  have hprepare : ((db.prepare q).map fun _ => db) = .ok db := by
    obtain ⟨columns, hcolumns⟩ := Option.isSome_iff_exists.mp hcatalog
    rw [Database.prepare, Database.table, hcolumns]
    split
    · rfl
    · rfl
  have hexecute : db.execute q = .ok db := (Database.execute_of_reading hq).trans hprepare
  exact .bind (.ask (a := types) (.done rfl rfl hprepare trivial))
    (.bind (.ofResult harguments) (.ask (.done rfl rfl hexecute ha)))

theorem transaction_leads {α : Type} {body : Operation α} {a : α}
    (h : body.Leads Step (opened db db) (.ok a) (opened db db')) :
    (Operation.transaction body).Leads Step ⟨db, none⟩ (.ok a) ⟨db', none⟩ :=
  .bind (.onFailure (.bind (.ask (.started rfl)) h)) (.bind (.ask (.committed rfl)) (.pure _ a))

end Leading

end Server

end Docstore
