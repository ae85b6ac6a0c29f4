import Docstore.Proofs.Store.Successes

/-!
# Upserts

When an upsert succeeds, whatever it is replied: its insert has written a row, or has written none and the update after
it was answered (`upsert_succeeds_iff`). That update need not have met a row (`upsert_meets_nothing`).
-/

namespace Docstore

open Docstore.Engine
open Docstore.Time (Instant)

/-! ## Inserts and updates -/

namespace Objects

variable {schema stored : Schema} {now : Instant} {query changes object : Document} {place : Place} {n m : Nat}
  {es : List Exchange}

theorem succeeds_insertRow {ignoreConflict : Bool} {written : Nat} :
    (insertRow stored object ignoreConflict place).Succeeds n es written m ↔
      ∃ i, Write.insert stored object = .ok i ∧
        ∃ answer, Answered place.connection (.objects (i.statement stored.className ignoreConflict)) answer es ∧
          m = n ∧ answer.affected = written := by
  rw [insertRow, Work.succeeds_ofResult_bind]
  refine exists_congr fun i => and_congr_right' ?_
  rw [Work.succeeds_bind_pure]
  simp [and_assoc]

theorem succeeds_update {objects : List Document}
    (hsome : ∀ u, Write.update schema.toStorage changes = .ok u → u.isEmpty = false) :
    (update schema now query changes place).Succeeds n es objects m ↔
      ∃ u, Write.update schema.toStorage changes = .ok u ∧
        ∃ s, u.statement schema.toStorage now query = .ok s ∧
          ∃ answer, Answered place.connection (.objects s) answer es ∧ m = n ∧
            answer.rows.mapM schema.toStorage.objectOf = .ok objects := by
  rw [update, Work.succeeds_ofResult_bind]
  refine exists_congr fun u => and_congr_right fun hu => ?_
  rw [hsome u hu, if_neg Bool.false_ne_true, Work.succeeds_ofResult_bind]
  refine exists_congr fun s => and_congr_right' ?_
  rw [Work.succeeds_bind_ofResult]
  simp [and_assoc]

/--
An upsert that comes to an end, and how many rows its insert has written or, where it wrote none, its update has
returned.
-/
inductive Upserted (schema : Schema) (now : Instant) (query changes : Document) (c : Connection) :
    List Exchange → Nat → Prop
  | inserted {i : Write.Insert} {answer : Answer} {es : List Exchange}
      (hi : Write.insert schema.toStorage (Write.upsertDocument query changes) = .ok i)
      (h : Answered c (.objects (i.statement schema.toStorage.className true)) answer es)
      (hwritten : answer.affected ≠ 0) : Upserted schema now query changes c es answer.affected
  | updated {i : Write.Insert} {u : Write.Update} {s : Sql.Statement} {answer answer' : Answer}
      {es es' : List Exchange} {objects : List Document}
      (hi : Write.insert schema.toStorage (Write.upsertDocument query changes) = .ok i)
      (h : Answered c (.objects (i.statement schema.toStorage.className true)) answer es)
      (hnone : answer.affected = 0) (hu : Write.update schema.toStorage changes = .ok u)
      (hs : u.statement schema.toStorage now query = .ok s) (h' : Answered c (.objects s) answer' es')
      (hread : answer'.rows.mapM schema.toStorage.objectOf = .ok objects) :
      Upserted schema now query changes c (es ++ es') answer'.rows.length

theorem succeeds_upsert (hsome : ∀ u, Write.update schema.toStorage changes = .ok u → u.isEmpty = false) {done : Unit} :
    (upsert schema now query changes place).Succeeds n es done m ↔
      (∃ rows, Upserted schema now query changes place.connection es rows) ∧ m = n := by
  rw [upsert, Work.succeeds_bind]
  constructor
  · rintro ⟨written, k, xs, ys, rfl, hinsert, hrest⟩
    obtain ⟨i, hi, answer, hanswered, rfl, rfl⟩ := succeeds_insertRow.mp hinsert
    split at hrest
    next hnone =>
      obtain ⟨objects, hupdate, -⟩ := Work.succeeds_bind_pure.mp hrest
      obtain ⟨u, hu, s, hs, answer', hanswered', rfl, hread⟩ := (succeeds_update hsome).mp hupdate
      exact ⟨⟨_, .updated hi hanswered hnone hu hs hanswered' hread⟩, rfl⟩
    next hwritten =>
      obtain ⟨rfl, -, rfl⟩ := Work.succeeds_pure.mp hrest
      rw [List.append_nil]
      exact ⟨⟨_, .inserted hi hanswered hwritten⟩, rfl⟩
  · rintro ⟨⟨rows, hupserted⟩, rfl⟩
    cases hupserted with
    | inserted hi hanswered hwritten =>
        refine ⟨_, m, es, [], (List.append_nil es).symm, succeeds_insertRow.mpr ⟨_, hi, _, hanswered, rfl, rfl⟩, ?_⟩
        rw [if_neg hwritten]
        exact Work.succeeds_pure.mpr ⟨rfl, rfl, rfl⟩
    | updated hi hanswered hnone hu hs hanswered' hread =>
        refine ⟨_, m, _, _, rfl, succeeds_insertRow.mpr ⟨_, hi, _, hanswered, rfl, rfl⟩, ?_⟩
        rw [if_pos hnone]
        exact Work.succeeds_bind_pure.mpr
          ⟨_, (succeeds_update hsome).mpr ⟨_, hu, _, hs, _, hanswered', rfl, hread⟩, rfl⟩

theorem exists_succeeds_upsert (hsome : ∀ u, Write.update schema.toStorage changes = .ok u → u.isEmpty = false)
    {done : Unit} :
    (∃ m, (upsert schema now query changes place).Succeeds n es done m) ↔
      ∃ rows, Upserted schema now query changes place.connection es rows := by
  simp only [succeeds_upsert hsome, exists_and_left, exists_eq, and_true]

/--
Whatever is replied, an upsert with an update that assigns something succeeds exactly where it comes to an end: its
insert has written rows, or has written none and the update was answered with objects, of which there may be none.
-/
theorem upsert_succeeds_iff (hsome : ∀ u, Write.update schema.toStorage changes = .ok u → u.isEmpty = false) :
    (∀ (store : Store) (es : List Exchange) (r : Result Unit),
      (store.perform (upsert schema now query changes)).run.Converses es r →
        (r = .ok () ↔ store.closed = false ∧ ∃ rest, es = .ofSuccess (.connect .pooled) () :: rest ∧
          ∃ rows, Upserted schema now query changes .pooled rest rows)) ∧
    ∀ (session session' : Session) (es : List Exchange) (r : Result Unit),
      (session.perform (upsert schema now query changes)).Converses es (r, session') →
        (r = .ok () ↔ session.ending = none ∧
          ∃ rows, Upserted schema now query changes (.session session.name) es rows) := by
  refine ⟨fun store es r h => ?_, fun session session' es r h => ?_⟩
  · have hok : (store.perform (upsert schema now query changes)).run.Converses es (.ok ()) ↔ _ :=
      Store.converses_perform_ok
    simp only [exists_succeeds_upsert hsome] at hok
    exact ⟨fun hr => hok.mp (hr ▸ h), fun hupserted => h.unique (hok.mpr hupserted)⟩
  · have hok : (∃ session', (session.perform (upsert schema now query changes)).Converses es (.ok (), session')) ↔ _ :=
      Session.converses_perform_ok
    simp only [exists_succeeds_upsert hsome] at hok
    refine ⟨fun hr => hok.mp ⟨session', hr ▸ h⟩, fun hupserted => ?_⟩
    obtain ⟨session'', h'⟩ := hok.mpr hupserted
    exact congrArg Prod.fst (h.unique h')

/-- Posts are looked for by their title and given a slug. -/
def sluggedPost : Schema := ⟨"Post", [("title", .ofType .string), ("slug", .ofType .string)], none, []⟩

def giveSlug : Place → Work Unit := upsert sluggedPost ⟨0, 0⟩ [("title", .string "a")] [("slug", .string "b")]

/-- A server that always answers that so many rows were written, and never returns one. -/
def replyWritten (rows : Nat) : (r : Request) → Unit → r.Reply × Unit := steadyReply (fun _ => none) ⟨[], rows⟩

/-- A post is written at once where nothing stands in its way. -/
theorem upsert_succeeds_iff_giveSlug :
    let store := Store.create false false none
    let es := (store.perform giveSlug).run.exchanges (replyWritten 1) ()
    let es' := ((Session.start "a").perform giveSlug).exchanges (replyWritten 1) ()
    (∀ u, Write.update sluggedPost.toStorage [("slug", .string "b")] = .ok u → u.isEmpty = false) ∧
      (∃ rows, Upserted sluggedPost ⟨0, 0⟩ [("title", .string "a")] [("slug", .string "b")] .pooled es.tail rows) ∧
      ∃ rows, Upserted sluggedPost ⟨0, 0⟩ [("title", .string "a")] [("slug", .string "b")] (.session "a") es' rows := by
  intro store es es'
  have hsome : ∀ u, Write.update sluggedPost.toStorage [("slug", .string "b")] = .ok u → u.isEmpty = false := by
    intro u hu
    have hu' : Write.update sluggedPost.toStorage [("slug", .string "b")] = .ok ⟨[⟨"slug", .set (.string "b") ""⟩]⟩ := rfl
    cases Except.ok.inj (hu'.symm.trans hu)
    rfl
  obtain ⟨hpooled, hsession⟩ := @upsert_succeeds_iff sluggedPost ⟨0, 0⟩ [("title", .string "a")] _ hsome
  refine ⟨hsome, ?_, ?_⟩
  · obtain ⟨-, rest, hes, h⟩ := (hpooled store es _ (Program.converses_run (replyWritten 1) _ ())).mp rfl
    rw [hes]
    exact h
  · exact ((hsession (Session.start "a") _ es' _ (Program.converses_run (replyWritten 1) _ ())).mp rfl).2

/--
No post has the title, but another one has the slug: the insert is skipped, the update meets nothing, and the upsert
succeeds all the same.
-/
theorem upsert_meets_nothing :
    (Write.update sluggedPost.toStorage [("slug", .string "b")]).map Write.Update.isEmpty = .ok false ∧
      (((Store.create false false none).perform giveSlug).run.run (replyWritten 0) ()).1 = .ok () ∧
      (((Session.start "a").perform giveSlug).run (replyWritten 0) ()).1.1 = .ok () := ⟨rfl, rfl, rfl⟩

end Objects

end Docstore
