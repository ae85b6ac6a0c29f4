import Docstore.Proofs.Store.Catalog
import Docstore.Proofs.Store.Works
import Docstore.Store.Session

/-!
# Sessions

What becomes of a session under any calls and any replies. Until something fails its transaction runs on, so that a
session is only committed where everything in it succeeded (`commit_sent_only_if`). It ends with one statement, and
nothing is said in it afterwards (`ends_once`).
-/

namespace Docstore

open Docstore.Engine

/-! ## Calls -/

/-- What can be asked of a session. -/
inductive SessionCall
  | work (operation : ObjectOperation)
  | commit
  | abort

abbrev SessionCall.Answer : SessionCall → Type
  | work operation => operation.Answer
  | commit | abort => Unit

def SessionCall.isWork : SessionCall → Bool
  | work _ => true
  | _ => false

def Session.call (s : Session) : (call : SessionCall) → Program (Result call.Answer × Session)
  | .work operation => s.perform operation.work
  | .commit => s.commit
  | .abort => s.abort

/-- A call of a session: what was said, how it came out, and what it left of the session. -/
structure SessionStep where
  call : SessionCall
  exchanges : List Exchange
  result : Result call.Answer
  session : Session

namespace SessionStep

def failure? (step : SessionStep) : Option Fault :=
  match step.result with
  | .ok _ => none
  | .error f => some f

/-- What was said in a session. -/
def said (steps : List SessionStep) : List Exchange := steps.flatMap exchanges

theorem said_cons (step : SessionStep) (steps : List SessionStep) :
    said (step :: steps) = step.exchanges ++ said steps := List.flatMap_cons

/-- The first failure of a step and of those after it. -/
theorem findSome?_cons (step : SessionStep) (steps : List SessionStep) :
    (step :: steps).findSome? failure? = step.failure?.or (steps.findSome? failure?) := by
  rw [List.findSome?_cons]
  cases step.failure? <;> rfl

/-- A call of a session that has ended: nothing is said, and nothing changes. -/
structure IsRefused (s : Session) (ending : Ending) (step : SessionStep) : Prop where
  exchanges : step.exchanges = []
  result : step.result = .error (.ofCause (.transactionClosed ending))
  session : step.session = s

end SessionStep

open SessionStep (said)

/-- A call of a session, as a server replies to it. -/
def Session.answered (s : Session) (reply : (r : Request) → Unit → r.Reply × Unit) (call : SessionCall) : SessionStep :=
  let outcome := ((s.call call).run reply ()).1
  ⟨call, (s.call call).exchanges reply (), outcome.1, outcome.2⟩

/-- Calls of a session one after another, with any replies. -/
inductive Session.Runs : Session → List SessionStep → Session → Prop
  | nil (s : Session) : Runs s [] s
  | cons {s s' s'' : Session} {call : SessionCall} {es : List Exchange} {r : Result call.Answer}
      {steps : List SessionStep} (h : (s.call call).Converses es (r, s')) (hs : Runs s' steps s'') :
      Runs s (⟨call, es, r, s'⟩ :: steps) s''

/-- The statement that ends a session. -/
def Ending.control : Ending → Sql.TransactionControl
  | committed => .commit
  | aborted => .rollback

namespace Session

theorem Runs.answered {s s' : Session} {steps : List SessionStep} (reply : (r : Request) → Unit → r.Reply × Unit)
    (call : SessionCall) (h : (s.answered reply call).session.Runs steps s') :
    s.Runs (s.answered reply call :: steps) s' := .cons (Program.converses_run reply _ ()) h

variable {s s' s'' : Session} {call : SessionCall} {es : List Exchange} {steps : List SessionStep}

/-! ## What a call does -/

/-- How a session is ended by one exchange. -/
structure Ends (s : Session) (ending : Ending) (e : Exchange) (es : List Exchange) (s' : Session) : Prop where
  exchanges : es = [e]
  request : e.request = .send (.session s.name) (.control ending.control)
  ending : s'.ending = some ending
  inTransaction : s'.inTransaction = (s.inTransaction && e.failed)
  name : s'.name = s.name

theorem finish_ends (ending : Ending) {r : Result Unit}
    (h : (s.finish ending.control ending).Converses es (r, s')) :
    ∃ e, s.Ends ending e es s' ∧ (e.failed = false → r = .ok ()) := by
  obtain ⟨r', xs, ys, rfl, hsend, hdone⟩ := Program.converses_bind.mp h
  obtain ⟨reply, rfl, rfl⟩ := Operation.converses_ask.mp hsend
  refine ⟨⟨_, reply⟩, ?_⟩
  rcases reply with f | ⟨⟩
  · obtain ⟨rfl, hpair⟩ := Program.converses_done.mp hdone
    cases hpair
    exact ⟨⟨rfl, rfl, rfl, (Bool.and_true _).symm, rfl⟩, fun hfailed => nomatch hfailed⟩
  · obtain ⟨rfl, hpair⟩ := Program.converses_done.mp hdone
    cases hpair
    exact ⟨⟨rfl, rfl, rfl, (Bool.and_false _).symm, rfl⟩, fun _ => rfl⟩

theorem converses_whileOpen_ended {α : Type} {p : Program (Result α × Session)} {r : Result α} {ending : Ending}
    (hending : s.ending = some ending) (h : (s.whileOpen p).Converses es (r, s')) :
    es = [] ∧ r = .error (.ofCause (.transactionClosed ending)) ∧ s' = s := by
  rw [whileOpen, hending] at h
  obtain ⟨rfl, hpair⟩ := Program.converses_done.mp h
  cases hpair
  exact ⟨rfl, rfl, rfl⟩

theorem whileOpen_open {α : Type} {p : Program (Result α × Session)} (hopen : s.ending = none) :
    s.whileOpen p = p := by
  rw [whileOpen, hopen]

/-- Nothing is said in a session that has ended. -/
theorem call_ended {r : Result call.Answer} {ending : Ending} (hending : s.ending = some ending)
    (h : (s.call call).Converses es (r, s')) : SessionStep.IsRefused s ending ⟨call, es, r, s'⟩ := by
  obtain ⟨hes, hr, hs⟩ : es = [] ∧ r = .error (.ofCause (.transactionClosed ending)) ∧ s' = s := by
    cases call with
    | work operation => exact converses_whileOpen_ended hending h
    | commit => exact converses_whileOpen_ended hending h
    | abort => exact converses_whileOpen_ended hending h
  exact ⟨hes, hr, hs⟩

/-- It is remembered how work came out. -/
theorem converses_perform_open {α : Type} {work : Place → Work α} {r : Result α} (hopen : s.ending = none) :
    (s.perform work).Converses es (r, s') ↔
      ∃ n, ((work (.session s.name)).run.run s.savepoints).Converses es (r, n) ∧
        s' = { s with savepoints := n }.note r := by
  rw [perform, whileOpen_open hopen, Program.converses_map fun _ => rfl]
  constructor
  · rintro ⟨⟨r', n⟩, hwork, hpair⟩
    cases hpair
    exact ⟨n, hwork, rfl⟩
  · rintro ⟨n, hwork, rfl⟩
    exact ⟨(r, n), hwork, rfl⟩

/-- Work belongs to the transaction. -/
theorem perform_open {operation : ObjectOperation} {r : Result operation.Answer} (hopen : s.ending = none)
    (h : (s.perform operation.work).Converses es (r, s')) :
    (∀ e ∈ es, e.request.IsInside (.session s.name)) ∧ ((∃ a, r = .ok a) → Mended (fun _ => False) es) ∧
      ∃ n, s' = { s with savepoints := n }.note r := by
  obtain ⟨n, hwork, hs'⟩ := (converses_perform_open hopen).mp h
  obtain ⟨hinside, hmended⟩ := operation.work_inSession s.name _ _ _ hwork
  exact ⟨hinside, hmended, n, hs'⟩

theorem note_ending {α : Type} (r : Result α) : (s.note r).ending = s.ending := by
  rcases r with (e | -) | a
  all_goals rfl

theorem note_inTransaction {α : Type} (r : Result α) : (s.note r).inTransaction = s.inTransaction := by
  rcases r with (e | -) | a
  all_goals rfl

theorem note_name {α : Type} (r : Result α) : (s.note r).name = s.name := by
  rcases r with (e | -) | a
  all_goals rfl

/-- A session is committed unless something failed; otherwise it is rolled back and fails with that. -/
theorem commit_open {r : Result Unit} (hopen : s.ending = none) (h : s.commit.Converses es (r, s')) :
    (s.failure = none ∧ ∃ e, s.Ends .committed e es s') ∨
      ∃ failure, s.failure = some failure ∧ ∃ e, s.Ends .aborted e es s' ∧
        (e.failed = false → r = .error (.error failure)) := by
  rw [commit, whileOpen_open hopen] at h
  cases hfailure : s.failure with
  | none =>
      rw [hfailure] at h
      obtain ⟨e, hends, -⟩ := finish_ends .committed h
      exact .inl ⟨rfl, e, hends⟩
  | some failure =>
      rw [hfailure] at h
      obtain ⟨⟨r', s''⟩, xs, ys, rfl, hfinish, hdone⟩ := Program.converses_bind.mp h
      obtain ⟨rfl, hpair⟩ := Program.converses_done.mp hdone
      cases hpair
      obtain ⟨e, hends, hr⟩ := finish_ends .aborted hfinish
      rw [List.append_nil]
      refine .inr ⟨failure, rfl, e, ⟨hends.exchanges, hends.request, hends.ending, hends.inTransaction, hends.name⟩, ?_⟩
      intro hfailed
      rw [hr hfailed]
      rfl

/-- A session that stays open has said nothing but what belongs to its transaction. -/
structure StaysOpen (s : Session) (es : List Exchange) (s' : Session) : Prop where
  isInside : ∀ e ∈ es, e.request.IsInside (.session s.name)
  ending : s'.ending = none
  inTransaction : s'.inTransaction = s.inTransaction
  name : s'.name = s.name

/-- A call that is no work ends a session. -/
theorem call_ends {r : Result call.Answer} (hopen : s.ending = none) (hcall : call.isWork = false)
    (h : (s.call call).Converses es (r, s')) :
    ∃ ending e, s.Ends ending e es s' ∧ (call = .abort → ending = .aborted) := by
  cases call with
  | work operation => cases hcall
  | commit =>
      rcases commit_open hopen h with ⟨-, e, hends⟩ | ⟨-, -, e, hends, -⟩
      · exact ⟨_, e, hends, fun hcall => nomatch hcall⟩
      · exact ⟨_, e, hends, fun _ => rfl⟩
  | abort =>
      rw [Session.call, abort, whileOpen_open hopen] at h
      obtain ⟨e, hends, -⟩ := finish_ends .aborted h
      exact ⟨_, e, hends, fun _ => rfl⟩

/-- Work keeps a session open; any other call ends it. -/
theorem call_open {r : Result call.Answer} (hopen : s.ending = none) (h : (s.call call).Converses es (r, s')) :
    s.StaysOpen es s' ∨ ∃ ending e, s.Ends ending e es s' := by
  cases hcall : call.isWork with
  | true =>
      cases call with
      | commit | abort => cases hcall
      | work operation =>
          obtain ⟨hinside, -, n, rfl⟩ := perform_open hopen h
          exact .inl ⟨hinside, (note_ending r).trans hopen, note_inTransaction r, note_name r⟩
  | false =>
      obtain ⟨ending, e, hends, -⟩ := call_ends hopen hcall h
      exact .inr ⟨ending, e, hends⟩

theorem StaysOpen.effect_ne (h : s.StaysOpen es s') : ∀ e ∈ es, e.request.effect ≠ .ends := by
  intro e he
  rcases (h.isInside e he).effect with heffect | heffect
  all_goals
    rw [heffect]
    decide

/-! ## After the end -/

/-- Once a session has ended, every call is refused. -/
theorem Runs.ended {ending : Ending} (h : s.Runs steps s') (hending : s.ending = some ending) :
    s' = s ∧ ∀ step ∈ steps, step.IsRefused s ending := by
  induction h with
  | nil s => exact ⟨rfl, fun _ h => nomatch h⟩
  | cons hcall _ ih =>
      have hrefused := call_ended hending hcall
      obtain rfl := hrefused.session
      obtain ⟨rfl, hlater⟩ := ih hending
      exact ⟨rfl, List.forall_mem_cons.mpr ⟨hrefused, hlater⟩⟩

theorem said_ended {ending : Ending} (h : ∀ step ∈ steps, step.IsRefused s ending) : said steps = [] :=
  List.flatMap_eq_nil_iff.mpr fun step hstep => (h step hstep).exchanges

theorem Runs.append_inv {xs ys : List SessionStep} (h : s.Runs (xs ++ ys) s'') :
    ∃ s', s.Runs xs s' ∧ s'.Runs ys s'' := by
  induction xs generalizing s with
  | nil => exact ⟨s, .nil s, h⟩
  | cons x xs ih =>
      cases h with
      | cons hcall hs =>
          obtain ⟨s', hxs, hys⟩ := ih hs
          exact ⟨s', .cons hcall hxs, hys⟩

theorem Runs.name_eq (h : s.Runs steps s') : s'.name = s.name := by
  induction h with
  | nil s => rfl
  | @cons s s₁ _ _ _ _ _ hcall _ ih =>
      refine ih.trans ?_
      cases hending : s.ending with
      | some ending => exact congrArg Session.name (call_ended hending hcall).session
      | none =>
          rcases call_open hending hcall with hstays | ⟨ending, e, hends⟩
          · exact hstays.name
          · exact hends.name

/-- To commit or abort a session that is still open after some calls is to ask the statement that ends it. -/
theorem Runs.closes {r : Result call.Answer} (h : s.Runs steps s') (hopen : s'.ending = none)
    (hcall : call.isWork = false) (hcloses : (s'.call call).Converses es (r, s'')) :
    ∃ (ending : Ending) (e : Exchange), es = [e] ∧ e.request = .send (.session s.name) (.control ending.control) ∧
      s''.ending = some ending ∧ (call = .abort → ending = .aborted) := by
  obtain ⟨ending, e, hends, habort⟩ := call_ends hopen hcall hcloses
  have hrequest := hends.request
  rw [h.name_eq] at hrequest
  exact ⟨ending, e, hends.exchanges, hrequest, hends.ending, habort⟩

/-- What was said in a session that was ended, up to the statement that ended it. -/
structure Ended (s : Session) (steps : List SessionStep) (s' : Session) (inside : List Exchange) (e : Exchange) :
    Prop where
  said : said steps = inside ++ [e]
  isInside : ∀ e ∈ inside, e.request.IsInside (.session s.name)
  request : ∃ ending : Ending, e.request = .send (.session s.name) (.control ending.control)
  inTransaction : s'.inTransaction = (s.inTransaction && e.failed)

theorem Ended.effect {inside : List Exchange} {e : Exchange} (h : s.Ended steps s' inside e) :
    e.request.effect = .ends := by
  obtain ⟨ending, hrequest⟩ := h.request
  rw [hrequest]
  cases ending <;> rfl

/-- A session is still open after some calls, or was ended by one statement, which was the last. -/
theorem Runs.open_or_ended (h : s.Runs steps s') (hopen : s.ending = none) :
    s.StaysOpen (said steps) s' ∨ ∃ inside e, s.Ended steps s' inside e := by
  induction h with
  | nil s => exact .inl ⟨List.forall_mem_nil _, hopen, rfl, rfl⟩
  | @cons s s₁ s' call es r steps hcall hs ih =>
      rcases call_open hopen hcall with hstays | ⟨ending, e, hends⟩
      · rcases ih hstays.ending with hstays' | ⟨inside, e, hended⟩
        · refine .inl ⟨?_, hstays'.ending, hstays'.inTransaction.trans hstays.inTransaction,
            hstays'.name.trans hstays.name⟩
          exact List.forall_mem_append.mpr ⟨hstays.isInside, hstays.name ▸ hstays'.isInside⟩
        · refine .inr ⟨es ++ inside, e, ?_, ?_, hstays.name ▸ hended.request,
            hstays.inTransaction ▸ hended.inTransaction⟩
          · rw [SessionStep.said_cons, hended.said, List.append_assoc]
          · exact List.forall_mem_append.mpr ⟨hstays.isInside, hstays.name ▸ hended.isInside⟩
      · obtain ⟨rfl, hrefused⟩ := hs.ended hends.ending
        refine .inr ⟨[], e, ?_, List.forall_mem_nil _, ⟨ending, hends.request⟩, hends.inTransaction⟩
        rw [SessionStep.said_cons, said_ended hrefused, List.append_nil]
        exact hends.exchanges

/-- The call that says how a session ends is the last that says anything. -/
theorem Runs.refused_after {before after : List SessionStep} {step : SessionStep} {e : Exchange}
    (h : s.Runs (before ++ step :: after) s') (he : e ∈ step.exchanges) (heffect : e.request.effect = .ends) :
    ∃ ending : Ending, e.request = .send (.session s.name) (.control ending.control) ∧
      ∀ later ∈ after, later.IsRefused step.session ending := by
  obtain ⟨s₁, hbefore, hrest⟩ := h.append_inv
  rw [← hbefore.name_eq]
  cases hrest with
  | @cons _ s₂ _ call es r _ hcall hafter =>
      cases hending : s₁.ending with
      | some ending =>
          rw [(call_ended hending hcall).exchanges] at he
          cases he
      | none =>
          rcases call_open hending hcall with hstays | ⟨ending, e', hends⟩
          · exact absurd heffect (hstays.effect_ne e he)
          · rw [show es = [e'] from hends.exchanges, List.mem_singleton] at he
            exact ⟨ending, he ▸ hends.request, (hafter.ended hends.ending).2⟩

/-! ## Failures -/

/-- The first failure is remembered, and unless there was one the transaction runs. -/
structure Carries (s : Session) (first : Option Fault) (standing : Standing) : Prop where
  ending : s.ending = none
  failure : s.failure.map Fault.error = first
  standing : s.failure = none → standing = .running

theorem Carries.after_call {first : Option Fault} {standing : Standing} {r : Result call.Answer}
    (hs : s.Carries first standing) (hwork : call.isWork = true) (h : (s.call call).Converses es (r, s'))
    (hcompleted : r ≠ .error .crash) :
    s'.name = s.name ∧
      s'.Carries (first.or (SessionStep.failure? ⟨call, es, r, s'⟩)) (Standing.run (.session s.name) standing es) := by
  cases call with
  | commit | abort => cases hwork
  | work operation =>
      -- Without a failure so far the transaction was running, and work that succeeds undoes the failures in it.
      obtain ⟨hinside, hmended, n, rfl⟩ := perform_open hs.ending h
      refine ⟨note_name r, (note_ending r).trans hs.ending, ?_, ?_⟩
      · rw [← hs.failure]
        rcases r with (e | -) | a
        · show (s.failure <|> some e).map Fault.error = _
          cases s.failure <;> rfl
        · exact absurd rfl hcompleted
        · show s.failure.map Fault.error = (s.failure.map Fault.error).or none
          cases s.failure <;> rfl
      · intro hfailure
        rcases r with (e | -) | a
        · change (s.failure <|> some e) = none at hfailure
          cases hs' : s.failure <;> rw [hs'] at hfailure <;> cases hfailure
        · exact absurd rfl hcompleted
        · rw [hs.standing hfailure]
          exact (hmended ⟨a, rfl⟩).run_eq es hinside

theorem Runs.carries {first : Option Fault} {standing : Standing} (h : s.Runs steps s')
    (hwork : ∀ step ∈ steps, step.call.isWork = true) (hcompleted : ∀ step ∈ steps, step.result ≠ .error .crash)
    (hs : s.Carries first standing) :
    s'.name = s.name ∧
      s'.Carries (first.or (steps.findSome? SessionStep.failure?))
        (Standing.run (.session s.name) standing (said steps)) := by
  induction h generalizing first standing with
  | nil s =>
      refine ⟨rfl, ?_⟩
      rw [List.findSome?_nil, Option.or_none]
      exact hs
  | @cons s s₁ s' call es r steps hcall _ ih =>
      obtain ⟨hname, hs₁⟩ := hs.after_call (hwork _ (.head _)) hcall (hcompleted _ (.head _))
      obtain ⟨hname', hs'⟩ := ih (fun step h => hwork step (.tail _ h)) (fun step h => hcompleted step (.tail _ h)) hs₁
      refine ⟨hname'.trans hname, ?_⟩
      rw [Option.or_assoc, hname] at hs'
      rw [SessionStep.said_cons, Standing.run_append, SessionStep.findSome?_cons]
      exact hs'

end Session

theorem Store.openSession_ok {store : Store} {name : String} {es : List Exchange} {s : Session}
    (h : (store.openSession name).run.Converses es (.ok s)) :
    s = Session.start name ∧ Standing.run (.session name) .idle es = .running := by
  obtain ⟨_, xs, ys, rfl, hconnect, hys⟩ := Operation.converses_bind_ok.mp h
  obtain ⟨_, zs, ws, rfl, hstart, hpure⟩ := Operation.converses_bind_ok.mp hys
  obtain ⟨rfl, hs⟩ := Operation.converses_pure.mp hpure
  cases hs
  have hidle : Standing.run (.session name) .idle xs = .idle := Standing.run_idle fun e he => by
    rw [(Store.connect_follows xs _ hconnect).1 e he]
    decide
  rw [Operation.converses_send_ok.mp hstart, List.append_nil, Standing.run_append, hidle, Standing.run_sent]
  exact ⟨rfl, rfl⟩

namespace Session

variable {store : Store} {name : String} {opening es : List Exchange} {s₀ s s' : Session} {steps : List SessionStep}

/-! ## Commits -/

/--
A session is committed only where everything in it succeeded and its transaction is running. Otherwise it is rolled
back, and where that succeeds it fails with what failed first.
-/
theorem commit_sent_only_if {r : Result Unit} (hopening : (store.openSession name).run.Converses opening (.ok s₀))
    (hruns : s₀.Runs steps s) (hwork : ∀ step ∈ steps, step.call.isWork = true)
    (hcompleted : ∀ step ∈ steps, step.result ≠ .error .crash) (hcommit : s.commit.Converses es (r, s')) :
    ∃ e, es = [e] ∧
      ((e.request = .send (.session name) (.control .commit) ∧ (∀ step ∈ steps, step.failure? = none) ∧
          Standing.run (.session name) .idle (opening ++ said steps) = .running) ∨
        (e.request = .send (.session name) (.control .rollback) ∧
          ∃ failure, steps.findSome? SessionStep.failure? = some failure ∧
            (e.failed = false → r = .error failure))) := by
  obtain ⟨rfl, hrunning⟩ := Store.openSession_ok hopening
  obtain ⟨hname, hcarries⟩ := hruns.carries hwork hcompleted ⟨rfl, rfl, fun _ => hrunning⟩
  have hfirst : s.failure.map Fault.error = steps.findSome? SessionStep.failure? := hcarries.failure
  rcases commit_open hcarries.ending hcommit with ⟨hfailure, e, hends⟩ | ⟨failure, hfailure, e, hends, hr⟩
  · refine ⟨e, hends.exchanges, .inl ⟨?_, ?_, ?_⟩⟩
    · rw [hends.request, hname]
      rfl
    · rw [hfailure, Option.map_none] at hfirst
      exact List.findSome?_eq_none_iff.mp hfirst.symm
    · rw [Standing.run_append]
      exact hcarries.standing hfailure
  · refine ⟨e, hends.exchanges, .inr ⟨?_, .error failure, ?_, hr⟩⟩
    · rw [hends.request, hname]
      rfl
    · rw [← hfirst, hfailure]
      rfl

/-- What is said when a session named `a` is opened. -/
def openingA : List Exchange :=
  [.ofSuccess (.connect (.session "a")) (), .ofSuccess (.send (.session "a") (.control .start)) ()]

theorem converses_openingA :
    ((Store.create false false none).openSession "a").run.Converses openingA (.ok (start "a")) := by
  exact .ask _ (.ask _ (.done _))

/-- A server without the tables that are read. -/
def replyTableMissing : (r : Request) → Unit → r.Reply × Unit :=
  steadyReply
    (fun
      | .execute _ _ _ => some (.server ⟨"42P01", "relation \"Post\" does not exist", none⟩)
      | _ => none)
    ⟨[], 0⟩

/-- Looks for all objects of a class. -/
def findPosts : SessionCall := .work (.find ⟨"Post", [], none, []⟩ ⟨0, 0⟩ [] .default)

/-- A query of a table that is missing fails, but is undone and finds nothing; so the session may be committed. -/
theorem commit_sent_only_if_findPosts :
    let step := (start "a").answered replyTableMissing findPosts
    step.exchanges.any Exchange.failed = true ∧ step.failure? = none ∧
      Standing.run (.session "a") .idle (openingA ++ said [step]) = .running := by
  refine ⟨rfl, rfl, ?_⟩
  have hsteps : ∀ step ∈ [(start "a").answered replyTableMissing findPosts],
      step.call.isWork = true ∧ step.result ≠ .error .crash := fun step hstep => by
    rw [List.mem_singleton.mp hstep]
    exact ⟨rfl, fun h => nomatch (show Except.ok [] = Except.error Fault.crash from h)⟩
  obtain ⟨e, -, h | ⟨-, failure, hfailure, -⟩⟩ := commit_sent_only_if converses_openingA
    (.answered replyTableMissing findPosts (.nil _)) (fun step h => (hsteps step h).1) (fun step h => (hsteps step h).2)
    (Program.converses_run replyTableMissing _ ())
  · exact h.2.2
  · exact nomatch (show none = some failure from hfailure)

/-! ## Ends -/

/--
At most one statement ends a session. Once it was asked, every call is refused with how the session ended and
changes nothing, whatever came of it. The session no longer marks its connection as in a transaction exactly where
that statement succeeded, and so a connection that is used again has no transaction open. While a session is open, to
commit or abort it asks that statement and nothing else, and closes it.
-/
theorem ends_once (hopening : (store.openSession name).run.Converses opening (.ok s₀)) (hruns : s₀.Runs steps s) :
    (s.ending = none → ∀ (call : SessionCall) (es : List Exchange) (r : Result call.Answer) (s' : Session),
      call.isWork = false → (s.call call).Converses es (r, s') →
        ∃ (ending : Ending) (e : Exchange), es = [e] ∧
          e.request = .send (.session name) (.control ending.control) ∧ s'.ending = some ending ∧
          (call = .abort → ending = .aborted)) ∧
    (said steps).countP (fun e => e.request.effect = .ends) ≤ 1 ∧
      (∀ before step after, steps = before ++ step :: after → ∀ e ∈ step.exchanges, e.request.effect = .ends →
        ∃ ending : Ending, e.request = .send (.session name) (.control ending.control) ∧
          ∀ later ∈ after, later.IsRefused step.session ending) ∧
      (s.inTransaction = false ↔ ∃ e ∈ said steps, e.request.effect = .ends ∧ e.failed = false) ∧
      (s.isReusable = true → Standing.run (.session name) .idle (opening ++ said steps) = .idle) := by
  obtain ⟨rfl, -⟩ := Store.openSession_ok hopening
  refine ⟨fun hopen call es r s' hcall h => hruns.closes hopen hcall h, ?_⟩
  have hreusable : s.isReusable = true ↔ s.inTransaction = false := by rw [isReusable, Bool.not_eq_true']
  rw [hreusable, and_left_comm]
  refine ⟨?_, ?_⟩
  · rintro before step after rfl e he heffect
    exact hruns.refused_after he heffect
  rcases hruns.open_or_ended rfl with hstays | ⟨inside, e, hended⟩
  · have hin : s.inTransaction = true := hstays.inTransaction
    have hnone : ∀ e ∈ said steps, e.request.effect ≠ .ends := hstays.effect_ne
    refine ⟨?_, ?_, ?_⟩
    · rw [List.countP_eq_zero.mpr fun e he => by simpa using hnone e he]
      exact Nat.zero_le 1
    · rw [hin]
      exact iff_of_false (by decide) fun ⟨e, he, heffect, _⟩ => hnone e he heffect
    · rw [hin]
      exact fun h => nomatch h
  · have hin : s.inTransaction = e.failed := hended.inTransaction.trans (Bool.true_and _)
    have hnone : ∀ e ∈ inside, e.request.effect ≠ .ends :=
      StaysOpen.effect_ne ⟨hended.isInside, rfl, rfl, rfl⟩
    rw [hended.said, hin]
    refine ⟨?_, ⟨fun hfailed => ⟨e, by simp, hended.effect, hfailed⟩, ?_⟩, fun hfailed => ?_⟩
    · rw [List.countP_append, List.countP_eq_zero.mpr fun e he => by simpa using hnone e he, Nat.zero_add]
      exact List.countP_le_length
    · rintro ⟨e', he', heffect, hfailed⟩
      rcases List.mem_append.mp he' with he' | he'
      · exact absurd heffect (hnone e' he')
      · rw [← List.mem_singleton.mp he', hfailed]
    · have hconnection : e.request.connection = .session name := by
        obtain ⟨ending, hrequest⟩ := hended.request
        rw [hrequest]
        rfl
      rw [← List.append_assoc, Standing.run_append, Standing.run_cons_of_eq hconnection,
        Standing.after_of_ends hfailed hended.effect, Standing.run_nil]

/-- A server that cannot roll back. -/
def replyLost : (r : Request) → Unit → r.Reply × Unit :=
  steadyReply (fun | .send _ (.control .rollback) => some (.client ["connection closed"]) | _ => none) ⟨[], 0⟩

/-- A session that is aborted asks for that once. It has ended even where this failed, and its connection is not used
again. -/
theorem ends_once_lost :
    let aborted := (start "a").answered replyLost .abort
    let again := aborted.session.answered replyLost .commit
    (∃ e, aborted.exchanges = [e] ∧ e.request = .send (.session "a") (.control .rollback)) ∧
      again.exchanges = [] ∧ again.result = .error (.ofCause (.transactionClosed .aborted)) ∧
      aborted.session.isReusable = false := by
  let aborted := (start "a").answered replyLost .abort
  let again := aborted.session.answered replyLost .commit
  obtain ⟨hcloses, -⟩ := ends_once converses_openingA (.nil _)
  obtain ⟨ending, e, hexchanges, hrequest, -, habort⟩ :=
    hcloses rfl .abort _ _ _ rfl (Program.converses_run replyLost _ ())
  obtain rfl := habort rfl
  refine ⟨⟨e, hexchanges, hrequest⟩, ?_⟩
  have hruns : (start "a").Runs [aborted, again] again.session :=
    .answered replyLost .abort (.answered replyLost .commit (.nil _))
  obtain ⟨-, -, hafter, -, -⟩ := ends_once converses_openingA hruns
  obtain ⟨ending, hrequest, hrefused⟩ := hafter [] aborted [again] rfl _ (.head _) rfl
  have hrefusedAgain := hrefused again (.head _)
  cases ending with
  | aborted => exact ⟨hrefusedAgain.exchanges, hrefusedAgain.result, rfl⟩
  | committed => cases hrequest

end Session

end Docstore
