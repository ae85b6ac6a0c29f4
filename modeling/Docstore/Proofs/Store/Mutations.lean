import Docstore.Proofs.Store.Changes

/-!
# Announcements of changes

Every operation that changes schemas announces the change when it is done, and only then. What comes of the
announcement does not matter to its result, and where it has a transaction, that is all or nothing
(`mutation_announced`).
-/

namespace Docstore

open Docstore.Engine

/-! ## Operations that change schemas -/

/-- The operations that change schemas, with a transaction or by a single statement. -/
inductive Mutation
  | change (change : Change)
  | setFieldOptions (className field : String) (declared : Field)
  | setPermissions (className : String) (permissions : Json)
  | ensureIndex (className : String) (fields : List String) (name : Option String) (ignoreCase : Bool)
  | ensureUnique (className : String) (fields : List String)

namespace Mutation

abbrev Answer : Mutation → Type
  | change c => c.Answer
  | _ => Unit

def carryOut (s : Store) : (m : Mutation) → Operation m.Answer
  | change c => c.carryOut s
  | setFieldOptions className field declared => s.setFieldOptions className field declared
  | setPermissions className permissions => s.setPermissions className permissions
  | ensureIndex className fields name ignoreCase => s.ensureIndex className fields name ignoreCase
  | ensureUnique className fields => s.ensureUnique className fields

/-- The class that is announced, none where all classes may have changed. -/
def className? : Mutation → Option String
  | change c => c.className?
  | setFieldOptions className _ _ | setPermissions className _ | ensureIndex className _ _ _
  | ensureUnique className _ => className

def transacts : Mutation → Bool
  | change _ => true
  | _ => false

end Mutation

/-! ## What is said before an announcement -/

/-- What an operation says on its connection from the pool, in one transaction if it has any. -/
structure Proceeds (transacts : Bool) (es : List Exchange) (succeeds : Bool) : Prop where
  pooled : ∀ e ∈ es, e.request.connection = .pooled
  course : transacts = true → Course es succeeds

theorem Engine.Course.pooled {es : List Exchange} {succeeds : Bool} (h : Course es succeeds) :
    ∀ e ∈ es, e.request.connection = .pooled := by
  have hreading : ∀ {before : List Exchange}, (∀ e ∈ before, e.request.IsReading) →
      ∀ e ∈ before, e.request.connection = .pooled := fun hbefore e he => (hbefore e he).connection
  cases h with
  | unopened hbefore => exact hreading hbefore
  | rolledBack hbefore hstart hfailed hinside hclose =>
      simp only [List.forall_mem_append, List.forall_mem_cons]
      refine ⟨⟨hreading hbefore, by rw [hstart]; rfl, fun e he => (hinside e he).connection⟩, by rw [hclose]; rfl, ?_⟩
      exact List.forall_mem_nil _
  | committed hbefore hinside hclose =>
      simp only [List.forall_mem_append, List.forall_mem_cons]
      refine ⟨⟨hreading hbefore, rfl, fun e he => (hinside e he).connection⟩, by rw [hclose]; rfl, ?_⟩
      exact List.forall_mem_nil _

variable {transacts : Bool}

theorem Proceeds.following {xs ys : List Exchange} {succeeds : Bool} (hxs : ∀ e ∈ xs, e.request.IsReading)
    (h : Proceeds transacts ys succeeds) : Proceeds transacts (xs ++ ys) succeeds :=
  ⟨List.forall_mem_append.mpr ⟨fun e he => (hxs e he).connection, h.pooled⟩, fun ht => .following hxs (h.course ht)⟩

theorem Proceeds.unopened {es : List Exchange} (h : ∀ e ∈ es, e.request.IsReading) : Proceeds transacts es false :=
  ⟨fun e he => (h e he).connection, fun _ => .unopened h⟩

/-! ## Operations that announce -/

/-- An operation fails and says no more, or succeeds and announces the change, whatever comes of that. -/
inductive Announcing {α : Type} (s : Store) (className : Option String) (transacts : Bool) (op : Operation α) :
    List Exchange → Result α → Prop
  | failed {es : List Exchange} {f : Fault} (h : Proceeds transacts es false) :
      Announcing s className transacts op es (.error f)
  | done {main news : List Exchange} {a : α} (hmain : Proceeds transacts main true)
      (hnews : s.Announced className news)
      (hany : ∀ news', s.Announced className news' → op.run.Converses (main ++ news') (.ok a)) :
      Announcing s className transacts op (main ++ news) (.ok a)

namespace Store

variable {α β : Type} {s : Store} {className : Option String}

theorem announcing_last {op : Operation β} {close : β → Operation α} {answer : β → α}
    (hop : ∀ es r, op.run.Converses es r → Proceeds transacts es r.isOk)
    (hclose : ∀ b, s.Announces className (close b) (answer b)) {es : List Exchange} {r : Result α}
    (h : (op >>= close).run.Converses es r) : Announcing s className transacts (op >>= close) es r := by
  rcases Operation.converses_bind.mp h with ⟨b, main, news, rfl, hmain, hnews⟩ | ⟨f, hmain, rfl⟩
  · obtain ⟨rfl, hannounced⟩ := (hclose b news r).mp hnews
    refine .done (hop main _ hmain) hannounced fun news' hnews' => ?_
    exact Operation.converses_go hmain ((hclose b news' _).mpr ⟨rfl, hnews'⟩)
  · exact .failed (hop es _ hmain)

theorem announcing_following {op : Operation β} {f : β → Operation α} (hop : op.Follows .reading)
    (hf : ∀ b es r, (f b).run.Converses es r → Announcing s className transacts (f b) es r) {es : List Exchange}
    {r : Result α} (h : (op >>= f).run.Converses es r) : Announcing s className transacts (op >>= f) es r := by
  rcases Operation.converses_bind.mp h with ⟨b, xs, ys, rfl, hxs, hys⟩ | ⟨fault, hxs, rfl⟩
  · have hreading : ∀ e ∈ xs, e.request.IsReading := (hop xs _ hxs).1
    cases hf b ys r hys with
    | failed hmain => exact .failed (hmain.following hreading)
    | done hmain hnews hany =>
        rw [← List.append_assoc]
        refine .done (hmain.following hreading) hnews fun news' hnews' => ?_
        rw [List.append_assoc]
        exact Operation.converses_go hxs (hany news' hnews')
  · exact .failed (.unopened (hop es _ hxs).1)

/-- A change with a transaction announces what it has committed. -/
theorem Alters.announcing {d : Discipline} (hd : ∀ r, d.allows r → r.IsInside .pooled) {op : Operation α}
    (h : s.Alters className d op) {es : List Exchange} {r : Result α} (hes : op.run.Converses es r) :
    Announcing s className true op es r := by
  induction h generalizing es r with
  | transaction hbody hclose =>
      refine announcing_last (fun xs r hxs => ?_) hclose hes
      have hcourse : Course xs r.isOk := Operation.transaction_course
        (fun ys r' hys e he => hd _ ((hbody ys r' hys).1 e he)) hxs
      exact ⟨hcourse.pooled, fun _ => hcourse⟩
  | following hop _ ih => exact announcing_following hop (fun b es r hes => ih b hes) hes

/-- A single statement between taking a connection and the announcement. -/
theorem single_announcing {op : Operation Unit} (hop : ∀ es r, op.run.Converses es r →
      ∀ e ∈ es, e.request.connection = .pooled) {es : List Exchange} {r : Result Unit}
    (h : (do s.connect .pooled; op; s.announce className : Operation Unit).run.Converses es r) :
    Announcing s className false (do s.connect .pooled; op; s.announce className) es r := by
  have hproceeds : ∀ xs r', op.run.Converses xs r' → Proceeds false xs r'.isOk :=
    fun xs r' hxs => ⟨hop xs r' hxs, nofun⟩
  refine announcing_following connect_reads (fun _ xs r' hxs => ?_) h
  exact announcing_last hproceeds (fun _ => announce_announces) hxs

end Store

/-- Nothing more is asked of requests than that they are on a connection from the pool. -/
def Engine.Discipline.pooled : Discipline := .asking fun r => r.connection = .pooled

theorem Change.inside {change : Change} (r : Request) (h : change.discipline.allows r) : r.IsInside .pooled := by
  cases change with
  | addField className field declared => exact h.1
  | _ => exact ⟨h.1, .inl h.2.1⟩

theorem Mutation.announcing {s : Store} {m : Mutation} {es : List Exchange} {r : Result m.Answer}
    (h : (m.carryOut s).run.Converses es r) : Announcing s m.className? m.transacts (m.carryOut s) es r := by
  have hquery : ∀ q, (Catalog.query q).Follows .pooled := fun _ => .query rfl fun _ => rfl
  have hindex : ∀ {name className : String} {columns : List Sql.IndexColumn} {unique : Bool} xs r',
      (Index.create name className columns unique).run.Converses xs r' → ∀ e ∈ xs, e.request.connection = .pooled := by
    intro name className columns unique xs r' hxs
    have hcreate : (Index.create name className columns unique).Follows .pooled :=
      .mapError _ (.recover _ _ (Operation.Follows.send rfl).always)
    exact (hcreate xs r' hxs).1
  cases m with
  | change c => exact (c.carryOut_alters s).announcing c.inside h
  | setFieldOptions className field declared | setPermissions className permissions =>
      exact Store.single_announcing (fun xs r' hxs => (Catalog.setEntry_follows hquery xs r' hxs).1) h
  | ensureIndex className fields name ignoreCase | ensureUnique className fields =>
      exact Store.single_announcing hindex h

/--
Whatever a server replies, an operation that changes schemas says what it has to say on a connection from the pool,
in one transaction if it has any; and where it succeeds, and only there, one publication of the class that has
changed follows, if the store listens. Any other course of the publication leads to the same result.
-/
theorem mutation_announced {s : Store} {m : Mutation} {es : List Exchange} {r : Result m.Answer}
    (h : (m.carryOut s).run.Converses es r) :
    ∃ main news, es = main ++ news ∧ (∀ e ∈ main, e.request.connection = .pooled) ∧
      (m.transacts = true → Course main r.isOk) ∧
      (r.isOk = false → news = []) ∧
      (r.isOk = true → s.Announced m.className? news ∧
        ∀ news', s.Announced m.className? news' → (m.carryOut s).run.Converses (main ++ news') r) := by
  cases Mutation.announcing h with
  | failed hmain => exact ⟨es, [], (List.append_nil es).symm, hmain.pooled, hmain.course, fun _ => rfl, nofun⟩
  | done hmain hnews hany => exact ⟨_, _, rfl, hmain.pooled, hmain.course, nofun, fun _ => ⟨hnews, hany⟩⟩

/-- A server that refuses what is published. -/
def replyUnpublished : (r : Request) → Unit → r.Reply × Unit :=
  steadyReply (fun | .prepare .listener _ => some (.client ["connection closed"]) | _ => none)
    ⟨[⟨[⟨"?column?", .jsonb⟩], [none]⟩], 1⟩

/-- A field is added by a store that listens, and the publication fails. -/
theorem mutation_announced_addField :
    let m : Mutation := .change (.addField "Post" "title" (.ofType .string))
    let s : Store := ⟨true, false, none, some "a1", false⟩
    ∃ es main news, (m.carryOut s).run.Converses es (.ok ()) ∧ es = main ++ news ∧ Course main true ∧
      s.Announced "Post" news ∧ es.any Exchange.failed = true := by
  intro m s
  have hconverses : (m.carryOut s).run.Converses ((m.carryOut s).run.exchanges replyUnpublished ()) (.ok ()) :=
    Program.converses_run replyUnpublished _ ()
  obtain ⟨main, news, heq, -, hcourse, -, hok⟩ := mutation_announced hconverses
  exact ⟨_, main, news, hconverses, heq, hcourse rfl, (hok rfl).1, by decide⟩

end Docstore
