import Docstore.Proofs.Engine.Courses
import Docstore.Store.Catalog

/-!
# What is asked of the catalog

Reading and changing the catalog neither moves a transaction nor creates indexes, so it may stand in a transaction
and outside of one. Connections are taken and changes are announced outside.
-/

namespace Docstore

open Docstore.Engine

namespace Sql.Definition

def createsIndex : Definition → Bool
  | createIndex _ _ _ _ => true
  | _ => false

end Sql.Definition

namespace Engine

def Request.createsIndex : Request → Bool
  | send _ (.define d) => d.createsIndex
  | _ => false

/-- The definition that a request sends. -/
def Request.definition? : Request → Option Sql.Definition
  | send _ (.define d) => some d
  | _ => none

/-- A discipline under which everything may be asked that neither moves the transaction nor creates indexes. -/
def Discipline.IsLenient (d : Discipline) : Prop :=
  ∀ r : Request, r.connection = .pooled → r.effect = .none → r.createsIndex = false → d.allows r

/-- A discipline under which everything may be read. -/
def Discipline.PermitsReading (d : Discipline) : Prop := ∀ r : Request, r.IsReading → d.allows r

theorem Request.IsReading.createsIndex {r : Request} (h : r.IsReading) : r.createsIndex = false := by
  cases r with
  | send c command =>
      cases command with
      | define d => cases h.writes
      | _ => rfl
  | _ => rfl

theorem Request.IsReading.definition?_eq_none {r : Request} (h : r.IsReading) : r.definition? = none := by
  cases r with
  | send c command =>
      cases command with
      | define d => cases h.writes
      | _ => rfl
  | _ => rfl

theorem Discipline.IsLenient.permitsReading {d : Discipline} (hd : d.IsLenient) : d.PermitsReading :=
  fun r h => hd r h.connection h.effect h.createsIndex

theorem Discipline.reading_permitsReading : reading.PermitsReading := fun _ h => h

end Engine

namespace Catalog

variable {d : Discipline} {className : String} {stored : Schema}

theorem query_follows (hd : d.IsLenient) (s : Sql.CatalogStatement) : (query s).Follows d :=
  .query (hd _ rfl rfl rfl) fun _ => hd _ rfl rfl rfl

theorem query_reads (hd : d.PermitsReading) {s : Sql.CatalogStatement} (h : s.writes = false) : (query s).Follows d :=
  .query (hd _ ⟨rfl, rfl, h⟩) fun _ => hd _ ⟨rfl, rfl, h⟩

theorem define_follows (hd : d.IsLenient) {definition : Sql.Definition} (h : definition.createsIndex = false) :
    (define definition).Follows d := .send (hd _ rfl rfl h)

theorem createTables_follows (hd : d.IsLenient) : (createTables stored).Follows d :=
  (define_follows hd rfl).bind fun _ => .forM fun _ => define_follows hd rfl

theorem addRow_follows (hquery : ∀ q, (query q).Follows d) {ignoreConflict : Bool} :
    (addRow stored ignoreConflict).Follows d :=
  (hquery _).bind fun _ => .pure ()

theorem setEntry_follows (hquery : ∀ q, (query q).Follows d) {path : List String} {value : Json} :
    (setEntry className path value).Follows d :=
  (hquery _).bind fun _ => .pure ()

theorem schema?_follows (hd : d.PermitsReading) : (schema? className).Follows d :=
  (query_reads hd rfl).bind fun answer => by
    cases answer.rows with
    | nil => exact .pure none
    | cons r _ => exact (Operation.Follows.ofResult _).bind fun _ => .pure _

theorem schemas_follows (hd : d.PermitsReading) : schemas.Follows d :=
  (query_reads hd rfl).bind fun _ => .ofResult _

end Catalog

namespace Store

variable {s : Store}

theorem connect_allowed {d : Discipline} {c : Connection} (h : d.allows (.connect c)) : (s.connect c).Follows d := by
  rw [connect]
  refine .ite (.throw _) (Program.Follows.map (.request h) fun reply => ?_)
  cases reply with
  | ok a => exact ⟨_, rfl, fun _ => ⟨a, rfl⟩⟩
  | error f => exact ⟨_, rfl, fun ⟨_, ha⟩ => nomatch ha⟩

theorem connect_follows {c : Connection} : (s.connect c).Follows .outside := connect_allowed rfl

theorem connect_reads : (s.connect .pooled).Follows .reading := connect_allowed ⟨rfl, rfl, rfl⟩

/-- An open pool is asked for a connection, and fails where none can be opened. -/
theorem converses_connect {c : Connection} {es : List Exchange} {r : Result Unit} (hopen : s.closed = false) :
    (s.connect c).run.Converses es r ↔
      ∃ reply : Except EngineFault Unit, es = [⟨.connect c, reply⟩] ∧ r = reply.mapError fun f => .ofCause (unopened f) := by
  rw [connect, hopen]
  show ((Program.request (.connect c)).bind _).Converses es _ ↔ _
  rw [Program.converses_map (g := fun reply => reply.mapError fun f => .ofCause (unopened f))]
  · exact exists_congr fun reply => and_congr_left' Program.converses_request
  · rintro (f | ⟨⟩)
    all_goals rfl

/-- There is a connection where the pool is open and one can be opened. -/
theorem converses_connect_ok {c : Connection} {es : List Exchange} {done : Unit} :
    (s.connect c).run.Converses es (.ok done) ↔ s.closed = false ∧ es = [.ofSuccess (.connect c) ()] := by
  cases hclosed : s.closed with
  | true => simp [connect, hclosed, throw, throwThe, MonadExceptOf.throw]
  | false =>
      rw [converses_connect hclosed]
      constructor
      · rintro ⟨f | ⟨⟩, rfl, hr⟩
        · cases hr
        · exact ⟨rfl, rfl⟩
      · rintro ⟨-, rfl⟩
        exact ⟨.ok (), rfl, rfl⟩

/-- How a change is announced: not at all where nobody listens, and by one publication otherwise. -/
inductive Announced (s : Store) (className : Option String) : List Exchange → Prop
  | silent (h : s.sender = none) : Announced s className []
  | published {sender : String} (h : s.sender = some sender) {es : List Exchange}
      (hes : Publication (.publish schemaChannel (Announcement.text ⟨sender, className⟩)) es) :
      Announced s className es

/-- Announcing a change succeeds, whatever comes of it. -/
theorem converses_announce {className : Option String} {es : List Exchange} {r : Result Unit} :
    (s.announce className).run.Converses es r ↔ r = .ok () ∧ s.Announced className es := by
  rw [announce]
  cases hsender : s.sender with
  | none =>
      rw [Operation.converses_pure]
      constructor
      · rintro ⟨rfl, rfl⟩
        exact ⟨rfl, .silent hsender⟩
      · rintro ⟨rfl, hes⟩
        cases hes with
        | silent => exact ⟨rfl, rfl⟩
        | published h => cases hsender.symm.trans h
  | some sender =>
      constructor
      · intro h
        rcases Operation.converses_bind.mp h with ⟨r', xs, ys, rfl, hxs, hys⟩ | ⟨f, hresult, -⟩
        · obtain ⟨rfl, rfl⟩ := Operation.converses_pure.mp hys
          obtain ⟨r'', hquery, -⟩ := Operation.converses_result.mp hxs
          rw [List.append_nil]
          exact ⟨rfl, .published hsender (Operation.publication_of_query hquery)⟩
        · obtain ⟨r', -, hr⟩ := Operation.converses_result.mp hresult
          cases hr
      · rintro ⟨rfl, hes⟩
        cases hes with
        | silent h => cases hsender.symm.trans h
        | published h hpublication =>
            cases hsender.symm.trans h
            obtain ⟨r, hquery⟩ := hpublication.exists_converses
            have hresult := Operation.converses_result.mpr ⟨r, hquery, rfl⟩
            rw [← List.append_nil es]
            exact Operation.converses_go hresult (Operation.converses_pure.mpr ⟨rfl, rfl⟩)

theorem Announced.effect {className : Option String} {es : List Exchange} (h : s.Announced className es) :
    ∀ e ∈ es, e.request.effect = .none := by
  cases h with
  | silent => exact List.forall_mem_nil _
  | published h hes => cases hes <;> simp [Exchange.ofSuccess, Request.effect]

theorem Announced.definition?_eq_none {className : Option String} {es : List Exchange} (h : s.Announced className es) :
    ∀ e ∈ es, e.request.definition? = none := by
  cases h with
  | silent => exact List.forall_mem_nil _
  | published h hes => cases hes <;> simp [Exchange.ofSuccess, Request.definition?]

end Store

end Docstore
