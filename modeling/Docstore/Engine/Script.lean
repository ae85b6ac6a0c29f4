import Docstore.Engine.Program

/-!
# A scripted server

A server that answers by rules: each statement takes the first rule that is about it. It keeps a log
of what it was sent. Without rules every statement succeeds and has no rows.
-/

namespace Docstore.Engine

open Docstore.Sql (Fragment)
open Docstore.Wire (Argument Bytes Column DataType Row)

/-- What is answered to statements that contain a text. -/
structure Rule where
  pattern : String
  /-- Whether the rule is kept for further statements. -/
  repeats : Bool
  /-- The types of the first parameters. -/
  types : List DataType
  columns : List Column
  rows : List (List (Option Bytes))
  affected : Nat
  failure : Option ServerError
  /-- Whether the connection is closed in place of an answer. -/
  closes : Bool
deriving Repr

/-- The rule of statements that no rule is about. -/
def Rule.default : Rule := ⟨"", true, [], [], [], 1, none, false⟩

/-- A statement as it arrived; only prepared ones have arguments. -/
structure LogEntry where
  connection : Connection
  sql : String
  arguments : Option (List Argument)
deriving DecidableEq, Repr

structure Script where
  rules : List Rule
  /-- What every attempt to connect meets, if none succeeds. -/
  refusal : Option EngineFault
  /-- The connections that are open. -/
  live : List Connection
  /-- The rule taken by the statement that was announced last. -/
  announced : Rule
  log : List LogEntry
deriving Repr

namespace Script

/-- A server that has not been asked anything. -/
def ofRules (rules : List Rule) : Script := ⟨rules, none, [], .default, []⟩

/-- A server that cannot be reached. -/
def unreachable (refusal : EngineFault) : Script := { ofRules [] with refusal := some refusal }

/-- Whether a text stands inside another. -/
def occursIn (part : List Char) : List Char → Bool
  | [] => part.isEmpty
  | c :: cs => part.isPrefixOf (c :: cs) || occursIn part cs

/-- The first rule about a statement, and the rules that are left. -/
def takeRule (sql : String) : List Rule → Rule × List Rule
  | [] => (.default, [])
  | r :: rs =>
    if occursIn r.pattern.toList sql.toList then (r, if r.repeats then r :: rs else rs)
    else
      let (taken, rest) := takeRule sql rs
      (taken, r :: rest)

/-- The type that a parameter has by the SQL around it. -/
def inferredType (sql : String) (n : Nat) : DataType :=
  let mark := "$" ++ toString n
  if occursIn (mark ++ "::text[]").toList sql.toList then .textArray
  else if occursIn ("ANY(" ++ mark ++ ")").toList sql.toList then .textArray
  else if occursIn (mark ++ "::jsonb").toList sql.toList then .jsonb
  else .text

/-- The types of a statement's parameters, those that a rule gives before those that are inferred. -/
def typesOf (r : Rule) (f : Fragment) : List DataType :=
  let count := (Sql.placeholders f).foldl max 0
  (List.range count).map fun i => (r.types[i]?).getD (inferredType (Sql.render f) (i + 1))

/-- The failure of anything asked of a connection that is closed. -/
def disconnected : EngineFault := .client ["connection closed"]

/-- The log with one more entry. -/
def append (s : Script) (e : LogEntry) : Script := { s with log := s.log ++ [e] }

/-- What a rule answers. -/
def outcome {α : Type} (s : Script) (c : Connection) (r : Rule) (a : α) :
    Except EngineFault α × Script :=
  if r.closes then (.error disconnected, { s with live := s.live.filter (· ≠ c) })
  else match r.failure with
    | some e => (.error (.server e), s)
    | none => (.ok a, s)

def answerOf (r : Rule) : Answer := ⟨r.rows.map fun cells => ⟨r.columns, cells⟩, r.affected⟩

/-- What the server replies to a request. -/
def reply : (r : Request) → Script → r.Reply × Script
  | .connect c, s =>
    match s.refusal with
    | some f => (.error f, s)
    | none => (.ok (), { s with live := c :: s.live.filter (· ≠ c) })
  | .send c command, s =>
    if s.live.contains c then
      let (r, rules) := takeRule command.text s.rules
      outcome ({ s with rules }.append ⟨c, command.text, none⟩) c r ()
    else (.error disconnected, s)
  | .prepare c p, s =>
    if s.live.contains c then
      let (r, rules) := takeRule p.text s.rules
      (.ok (typesOf r p.fragment), { s with rules, announced := r })
    else (.error disconnected, s)
  | .execute c p arguments, s =>
    if s.live.contains c then
      outcome (s.append ⟨c, p.text, some arguments⟩) c s.announced (answerOf s.announced)
    else (.error disconnected, s)

/-- Carries out a program against the server. -/
def play {α : Type} (s : Script) (p : Program α) : α × Script := p.run reply s

end Script

end Docstore.Engine
