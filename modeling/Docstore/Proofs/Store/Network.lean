import Docstore.Proofs.Json.Quoting
import Docstore.Proofs.Store.Catalog
import Mathlib.Logic.Function.Basic

/-!
# Stores that listen to each other

Stores that share a database announce their changes on a channel, on which others may post as well. However their
announcements and the deliveries interleave, each store hears of every change that others made, once and in the
order of the channel, and never of its own (`changes_delivered`).
-/

namespace Docstore

open Docstore.Engine

/-! ## Announcements as text -/

namespace Announcement

theorem toFields_eq (a : Announcement) : a.toFields =
    Json.ofStrings (("senderId", a.sender) :: (a.className.map ("className", ·)).toList) := by
  obtain ⟨sender, className⟩ := a
  cases className <;> rfl

/-- An announcement is read back from its text, whatever its sender and its class are called. -/
theorem ofText?_text (a : Announcement) : ofText? a.text = some a := by
  obtain ⟨sender, className⟩ := a
  rw [ofText?, text, toFields_eq, Json.parseKnown?_ofStrings]
  · cases className <;> rfl
  · cases className <;> simp

/-- What means nothing is passed over, be it a number beyond all doubles or half a pair of numbers. -/
example : ofText? "\x7b\"x\":[1e999,\"\\ud800\"],\"senderId\":\"a1\"\x7d" = some ⟨"a1", none⟩ := by
  decide +kernel

end Announcement

/-! ## What is posted -/

/-- The notification that the server posts to everyone that listens. -/
def Engine.Exchange.posted? : Exchange → Option Notification
  | ⟨.execute _ (.publish channel payload) _, .ok _⟩ => some ⟨channel, payload⟩
  | _ => none

/-- The types of the values that a prepared statement takes. -/
def Engine.Exchange.types? : Exchange → Option (List Wire.DataType)
  | ⟨.prepare _ _, .ok types⟩ => some types
  | _ => none

/-- What ends an announcement before it is posted: a request fails, or the statement does not take two texts. -/
def Engine.Exchange.Hinders (e : Exchange) : Prop :=
  e.failed = true ∨ ∃ types, e.types? = some types ∧ types ≠ [.text, .text]

/-- A notification that a server has posted, and the store that announced a change by it, if one did. -/
structure Posting (ι : Type) where
  notification : Notification
  author : Option (ι × Option String)

/-- A store on a channel: how many notifications it has received, and what they led to. -/
structure Listener where
  store : Store
  received : Nat
  events : List Store.Event

/-- Notifications in the order of their channel, and the stores that they are delivered to. -/
structure Network (ι : Type) where
  postings : List (Posting ι)
  listeners : ι → Listener

def Listener.receive (l : Listener) (n : Notification) : Listener :=
  { l with received := l.received + 1, events := l.events ++ l.store.receive n }

def Listener.watch (l : Listener) (observer : String) : Listener := { l with store := l.store.watch observer }

namespace Network

variable {ι : Type} [DecidableEq ι]

/-- Nothing has been posted yet. -/
def start (stores : ι → Store) : Network ι := ⟨[], fun i => ⟨stores i, 0, []⟩⟩

def post (n : Network ι) (postings : List (Posting ι)) : Network ι := { n with postings := n.postings ++ postings }

def change (n : Network ι) (i : ι) (f : Listener → Listener) : Network ι :=
  { n with listeners := Function.update n.listeners i (f (n.listeners i)) }

/-- What may happen next: nothing but the order of the channel restricts it. -/
inductive Step (n : Network ι) : Network ι → Prop
  | announce (i : ι) (className : Option String) {es : List Exchange} {r : Result Unit}
      (h : ((n.listeners i).store.announce className).run.Converses es r) :
      Step n (n.post ((es.filterMap Exchange.posted?).map (⟨·, some (i, className)⟩)))
  | foreign (notification : Notification) : Step n (n.post [⟨notification, none⟩])
  | deliver (i : ι) {p : Posting ι} (h : n.postings[(n.listeners i).received]? = some p) :
      Step n (n.change i (·.receive p.notification))
  | watch (i : ι) (observer : String) : Step n (n.change i (·.watch observer))

inductive Reaches : Network ι → Network ι → Prop
  | refl (n : Network ι) : Reaches n n
  | step {n m k : Network ι} (h : Reaches n m) (hstep : Step m k) : Reaches n k

end Network

/-! ## What is heard -/

namespace Posting

variable {ι : Type} [DecidableEq ι]

/--
The class that a store hears of: what others announce, and what is posted on the channel in the form of an
announcement and under another name.
-/
def news (names : ι → String) (i : ι) (p : Posting ι) : Option (Option String) :=
  match p.author with
  | some (author, className) => if author = i then none else some className
  | none =>
    if p.notification.channel = schemaChannel then
      ((Announcement.ofText? p.notification.payload).filter (·.sender ≠ names i)).map (·.className)
    else none

/-- What a store has posted is its announcement. -/
def IsTrue (names : ι → String) (p : Posting ι) : Prop :=
  ∀ i className, p.author = some (i, className) →
    p.notification = ⟨schemaChannel, Announcement.text ⟨names i, className⟩⟩

theorem change?_eq_news {names : ι → String} (hnames : names.Injective) {p : Posting ι} (h : p.IsTrue names) (i : ι) :
    (p.notification.change? (names i)).map (·.className) = p.news names i := by
  obtain ⟨notification, author⟩ := p
  cases author with
  | none => rw [Notification.change?, news]; split <;> rfl
  | some author =>
      obtain ⟨j, className⟩ := author
      cases h j className rfl
      show (Notification.change? (names i) _).map (·.className) = if j = i then none else some className
      rw [Notification.change?, if_pos rfl, Announcement.ofText?_text]
      by_cases hj : j = i
      · simp [hj]
      · rw [Option.filter_some_pos (by simpa using hnames.ne hj), if_neg hj]
        rfl

end Posting

namespace Store

/-- The class that an observer was told of. -/
def Event.told : Event → Option (Option String)
  | cacheCleared => none
  | observed _ className => some className

/-- What hearing of a change leads to, whoever observes: a cache is cleared, then the observer told. -/
def reaction (caching : Bool) (className : Option String) : List (Option (Option String)) :=
  (if caching then [none] else []) ++ [some className]

theorem receive_eq {s : Store} {own : String} (hsender : s.sender = some own) (hopen : s.closed = false)
    (n : Notification) : s.receive n = ((n.change? own).map s.eventsOf).getD [] := by
  rw [receive, hsender]
  simp [hopen]

theorem told_eventsOf {s : Store} (h : s.observer.isSome = true) (a : Announcement) :
    (s.eventsOf a).map Event.told = reaction s.caching a.className := by
  obtain ⟨observer, hobserver⟩ := Option.isSome_iff_exists.mp h
  rw [eventsOf, hobserver, reaction]
  cases s.caching <;> rfl

theorem cleared_eventsOf (s : Store) (a : Announcement) :
    (s.eventsOf a).countP (· = .cacheCleared) = if s.caching then 1 else 0 := by
  rw [eventsOf]
  cases s.caching <;> cases s.observer <;> simp

/-- An announcement is posted once, unless something hinders it. -/
theorem Announced.posted {s : Store} {className : Option String} {es : List Exchange} {own : String}
    (h : s.Announced className es) (hsender : s.sender = some own) :
    es.filterMap Exchange.posted? = [⟨schemaChannel, Announcement.text ⟨own, className⟩⟩] ∨
      es.filterMap Exchange.posted? = [] ∧ ∃ e ∈ es, e.Hinders := by
  cases h with
  | silent h => cases h.symm.trans hsender
  | published hsender' hes =>
      cases hsender'.symm.trans hsender
      cases hes with
      | refused f => exact .inr ⟨rfl, _, List.mem_singleton_self _, .inl rfl⟩
      | unwritten hwritten =>
          -- Two texts can be written as two texts.
          refine .inr ⟨rfl, _, List.mem_singleton_self _, .inr ⟨_, rfl, ?_⟩⟩
          rintro rfl
          cases hwritten
      | sent _ reply =>
          cases reply with
          | error f => exact .inr ⟨rfl, _, .tail _ (List.mem_singleton_self _), .inl rfl⟩
          | ok a => exact .inl rfl

end Store

section Hearing

variable {ι : Type} [DecidableEq ι] {names : ι → String} {i : ι}

/-- What a listener has heard of so far. -/
def Listener.heard (names : ι → String) (i : ι) (postings : List (Posting ι)) (l : Listener) : List (Option String) :=
  (postings.take l.received).filterMap (Posting.news names i)

/-- A listener that has reacted to everything that it has heard of, and to nothing else. -/
structure Listener.Hears (names : ι → String) (i : ι) (cached observed : Bool) (postings : List (Posting ι))
    (l : Listener) : Prop where
  sender : l.store.sender = some (names i)
  isOpen : l.store.closed = false
  caching : l.store.caching = cached
  observer : observed = true → l.store.observer.isSome = true
  received : l.received ≤ postings.length
  cleared : l.events.countP (· = .cacheCleared) = if cached then (l.heard names i postings).length else 0
  told : observed = true → l.events.map Store.Event.told = (l.heard names i postings).flatMap (Store.reaction cached)

namespace Listener.Hears

variable {cached observed : Bool} {postings : List (Posting ι)} {l : Listener}

theorem start {s : Store} (hsender : s.sender = some (names i)) (hopen : s.closed = false) :
    Hears names i s.caching s.observer.isSome ([] : List (Posting ι)) ⟨s, 0, []⟩ :=
  ⟨hsender, hopen, rfl, id, Nat.le_refl 0, by simp [heard], fun _ => by simp [heard]⟩

/-- What is posted later has not been heard of yet. -/
theorem post (h : l.Hears names i cached observed postings) (later : List (Posting ι)) :
    l.Hears names i cached observed (postings ++ later) := by
  have hheard : l.heard names i (postings ++ later) = l.heard names i postings := by
    rw [heard, heard, List.take_append_of_le_length h.received]
  refine ⟨h.sender, h.isOpen, h.caching, h.observer, ?_, ?_, ?_⟩
  · rw [List.length_append]
    exact Nat.le_add_right_of_le h.received
  · rw [hheard]
    exact h.cleared
  · rw [hheard]
    exact h.told

theorem watch (h : l.Hears names i cached observed postings) (observer : String) :
    (l.watch observer).Hears names i cached observed postings :=
  ⟨h.sender, h.isOpen, h.caching, fun _ => rfl, h.received, h.cleared, h.told⟩

theorem receive (hnames : names.Injective) (h : l.Hears names i cached observed postings) {p : Posting ι}
    (hp : postings[l.received]? = some p) (htrue : p.IsTrue names) :
    (l.receive p.notification).Hears names i cached observed postings := by
  have hheard : (l.receive p.notification).heard names i postings =
      l.heard names i postings ++ (p.news names i).toList := by
    rw [heard, Listener.receive, List.take_add_one, hp, List.filterMap_append]
    cases hnews : p.news names i <;> simp [heard, hnews]
  have hevents : (l.receive p.notification).events =
      l.events ++ ((p.notification.change? (names i)).map l.store.eventsOf).getD [] := by
    rw [Listener.receive, Store.receive_eq h.sender h.isOpen]
  have hnews := Posting.change?_eq_news hnames htrue i
  refine ⟨h.sender, h.isOpen, h.caching, h.observer, ?_, ?_, fun hobserved => ?_⟩
  · exact (List.getElem?_eq_some_iff.mp hp).1
  · rw [hevents, hheard, List.countP_append, h.cleared]
    cases hchange : p.notification.change? (names i) with
    | none =>
        rw [hchange] at hnews
        simp [← hnews]
    | some a =>
        rw [hchange] at hnews
        have hcleared := l.store.cleared_eventsOf a
        rw [h.caching] at hcleared
        rw [← hnews, Option.map_some, Option.getD_some, hcleared]
        cases cached <;> simp
  · rw [hevents, hheard, List.map_append, h.told hobserved, List.flatMap_append]
    cases hchange : p.notification.change? (names i) with
    | none =>
        rw [hchange] at hnews
        simp [← hnews]
    | some a =>
        rw [hchange] at hnews
        rw [← hnews, Option.map_some, Option.getD_some, Store.told_eventsOf (h.observer hobserved), h.caching]
        simp

end Listener.Hears

namespace Network

/-- A network that began with some stores, in which every listener has heard of what it has received. -/
structure Follows (names : ι → String) (stores : ι → Store) (n : Network ι) : Prop where
  postings : ∀ p ∈ n.postings, p.IsTrue names
  hears : ∀ i, (n.listeners i).Hears names i (stores i).caching (stores i).observer.isSome n.postings

namespace Follows

variable {stores : ι → Store} {n m : Network ι}

theorem post (h : n.Follows names stores) {postings : List (Posting ι)} (hpostings : ∀ p ∈ postings, p.IsTrue names) :
    (n.post postings).Follows names stores :=
  ⟨List.forall_mem_append.mpr ⟨h.postings, hpostings⟩, fun i => (h.hears i).post postings⟩

theorem change (h : n.Follows names stores) {i : ι} {f : Listener → Listener}
    (hf : (f (n.listeners i)).Hears names i (stores i).caching (stores i).observer.isSome n.postings) :
    (n.change i f).Follows names stores := by
  refine ⟨h.postings, fun j => ?_⟩
  have hlisteners : (n.change i f).listeners j = if j = i then f (n.listeners i) else n.listeners j :=
    Function.update_apply ..
  rw [hlisteners]
  split
  next hj =>
    subst hj
    exact hf
  next => exact h.hears j

theorem step (hnames : names.Injective) (h : n.Follows names stores) (hstep : n.Step m) : m.Follows names stores := by
  cases hstep with
  | announce i className hes =>
      apply h.post
      intro p hp
      obtain ⟨notification, hposted, rfl⟩ := List.mem_map.mp hp
      rintro j className' ⟨⟩
      rcases (Store.converses_announce.mp hes).2.posted (h.hears i).sender with hposts | ⟨hposts, -⟩
      · rw [hposts] at hposted
        exact List.mem_singleton.mp hposted
      · rw [hposts] at hposted
        cases hposted
  | foreign notification =>
      apply h.post
      intro p hp
      rw [List.mem_singleton.mp hp]
      rintro j className ⟨⟩
  | deliver i hp =>
      apply h.change
      exact (h.hears i).receive hnames hp (h.postings _ (List.mem_of_getElem? hp))
  | watch i observer =>
      apply h.change
      exact (h.hears i).watch observer

theorem run (hnames : names.Injective) (hn : n.Follows names stores) (h : n.Reaches m) : m.Follows names stores := by
  induction h with
  | refl => exact hn
  | step _ hstep ih => exact ih.step hnames hstep

end Follows

/--
Whatever stores with names of their own announce, and whatever else is posted, a store that is observed from the
beginning has told its observers of exactly the changes that others have made, once each and in order, as far as its
notifications have been delivered. Its cache is cleared right before that and at no other time. What a store announces
is posted once, if nothing hinders it, and announcing succeeds in any case.
-/
theorem changes_delivered (hnames : names.Injective) {stores : ι → Store}
    (hsender : ∀ i, (stores i).sender = some (names i)) (hopen : ∀ i, (stores i).closed = false) {n : Network ι}
    (h : (start stores).Reaches n) (i : ι) :
    let l := n.listeners i
    let heard := (n.postings.take l.received).filterMap (Posting.news names i)
    ((stores i).observer.isSome = true →
      l.events.map Store.Event.told = heard.flatMap (Store.reaction (stores i).caching)) ∧
    l.events.countP (· = .cacheCleared) = (if (stores i).caching then heard.length else 0) ∧
    (∀ p ∈ n.postings, ∀ j className, p.author = some (j, className) →
      p.notification = ⟨schemaChannel, Announcement.text ⟨names j, className⟩⟩) ∧
    (∀ (className : Option String) (es : List Exchange) (r : Result Unit),
      (l.store.announce className).run.Converses es r → r = .ok () ∧
        (es.filterMap Exchange.posted? = [⟨schemaChannel, Announcement.text ⟨names i, className⟩⟩] ∨
          es.filterMap Exchange.posted? = [] ∧ ∃ e ∈ es, e.Hinders)) ∧
    ∀ a : Announcement, Announcement.ofText? a.text = some a := by
  have hstart : (start stores).Follows names stores :=
    ⟨List.forall_mem_nil _, fun i => .start (hsender i) (hopen i)⟩
  have hn : n.Follows names stores := hstart.run hnames h
  refine ⟨(hn.hears i).told, (hn.hears i).cleared, hn.postings, ?_, Announcement.ofText?_text⟩
  intro className es r hes
  obtain ⟨hr, hannounced⟩ := Store.converses_announce.mp hes
  exact ⟨hr, hannounced.posted (hn.hears i).sender⟩

/-- One store announces a change, someone posts what is no announcement, and both reach the other store. -/
theorem changes_delivered_pair :
    let stores : Bool → Store := fun i => ⟨true, true, some "observer", some (if i then "a1" else "a0"), false⟩
    ∃ n : Network Bool, (start stores).Reaches n ∧
      n.postings.map Posting.notification =
        [⟨schemaChannel, Announcement.text ⟨"a1", some "Post"⟩⟩, ⟨schemaChannel, "change"⟩] ∧
      (n.listeners false).received = 2 ∧
      (n.listeners false).events.map Store.Event.told = [none, some (some "Post")] := by
  intro stores
  let names : Bool → String := fun i => if i then "a1" else "a0"
  have hnames : names.Injective := by
    intro i j h
    cases i <;> cases j <;> simp_all [names]
  have hes : ((stores true).announce (some "Post")).run.Converses
      (((stores true).announce (some "Post")).run.exchanges (steadyReply (fun _ => none) ⟨[], 0⟩) ()) (.ok ()) :=
    Program.converses_run (steadyReply (fun _ => none) ⟨[], 0⟩) _ ()
  have hposted := ((Reaches.refl (start stores)).step (.announce true (some "Post") hes)).step
    (.foreign ⟨schemaChannel, "change"⟩)
  have hreaches := (hposted.step (.deliver false rfl)).step (.deliver false rfl)
  have hdelivered := changes_delivered hnames (fun _ => rfl) (fun _ => rfl) hreaches false
  exact ⟨_, hreaches, rfl, rfl, (hdelivered.1 rfl).trans (by decide +kernel)⟩

end Network

end Hearing

end Docstore
