import Docstore.Engine.Command

/-!
# Programs

A program is a conversation with the server: what is asked next may depend on every reply so far.
It says nothing about the replies, so what holds of a program holds whatever the server does.
`Program.run` carries a program out against anything that replies.
-/

namespace Docstore.Engine

open Docstore.Wire (Argument DataType)

inductive Request
  /-- Opens a connection, or borrows one that is open. -/
  | connect (c : Connection)
  | send (c : Connection) (command : Command)
  /-- Announces a statement. -/
  | prepare (c : Connection) (p : Prepared)
  /-- Carries out the statement that was announced last. -/
  | execute (c : Connection) (p : Prepared) (arguments : List Argument)

/-- What a request is replied with when it succeeds. -/
abbrev Request.Success : Request → Type
  | connect _ => Unit
  | send _ _ => Unit
  | prepare _ _ => List DataType
  | execute _ _ _ => Answer

abbrev Request.Reply (r : Request) : Type := Except EngineFault r.Success

inductive Program (α : Type) : Type
  | done (a : α)
  | ask (r : Request) (next : r.Reply → Program α)

namespace Program

def bind {α β : Type} : Program α → (α → Program β) → Program β
  | done a, f => f a
  | ask r next, f => ask r fun reply => bind (next reply) f

instance : Monad Program where
  pure := done
  bind := bind

/-- Asks one thing. -/
def request (r : Request) : Program r.Reply := ask r done

/-- Carries out a program. What replies may remember everything that it was asked. -/
def run {α σ : Type} (reply : (r : Request) → σ → r.Reply × σ) : Program α → σ → α × σ
  | done a, s => (a, s)
  | ask r next, s => run reply (next (reply r s).1) (reply r s).2

@[simp] theorem pure_eq {α : Type} (a : α) : (pure a : Program α) = done a := rfl

@[simp] theorem bind_eq {α β : Type} (p : Program α) (f : α → Program β) :
    (p >>= f) = p.bind f := rfl

theorem bind_done {α : Type} (p : Program α) : p.bind done = p := by
  induction p with
  | done a => rfl
  | ask r next ih => simp [bind, ih]

theorem bind_assoc {α β γ : Type} (p : Program α) (f : α → Program β) (g : β → Program γ) :
    (p.bind f).bind g = p.bind fun a => (f a).bind g := by
  induction p with
  | done a => rfl
  | ask r next ih => simp [bind, ih]

end Program

end Docstore.Engine
