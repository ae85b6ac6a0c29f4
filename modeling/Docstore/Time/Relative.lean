import Docstore.Text.Integer
import Docstore.Text.LowerCase
import Docstore.Text.Split
import Docstore.Time.Instant

/-!
# Relative times

A time is named by its distance from now: `now`, `in 2 days 3 hours`, `1 week ago`. Amounts add up,
letter case does not matter, and words may be any number of blanks apart.
-/

namespace Docstore.Time.Relative

/-- Why a text names no time. -/
inductive Failure
  | noDirection
  | bothDirections
  | unpaired
  | notInteger (amount : String)
  | unknownUnit (unit : String)
  /-- A product, a sum or the resulting date is beyond its range. -/
  | outOfRange
deriving DecidableEq, Repr

/-- What is said of a failure: nothing where the time is out of range, as no answer is given then. -/
def Failure.message : Failure → String
  | noDirection => "Time should either start with 'in' or end with 'ago'"
  | bothDirections => "Time cannot have both 'in' and 'ago'"
  | unpaired => "Invalid time string. Dangling unit or number."
  | notInteger amount => "'" ++ amount ++ "' is not an integer."
  | unknownUnit unit => "Invalid interval: '" ++ unit ++ "'"
  | outOfRange => ""

/-- Seconds in a unit. -/
def unitSeconds? (unit : String) : Option Int :=
  if unit ∈ ["yr", "yrs", "year", "years"] then some 31536000
  else if unit ∈ ["wk", "wks", "week", "weeks"] then some 604800
  else if unit ∈ ["d", "day", "days"] then some 86400
  else if unit ∈ ["hr", "hrs", "hour", "hours"] then some 3600
  else if unit ∈ ["min", "mins", "minute", "minutes"] then some 60
  else if unit ∈ ["sec", "secs", "second", "seconds"] then some 1
  else none

/-- The words of a text. -/
def words (s : String) : List String := (Text.pieces ' ' s).filter (· ≠ "")

/-- Adds the seconds of pairs of an amount and a unit to a sum. -/
def addPairs (sum : Int) : List String → Except Failure Int
  | [] => .ok sum
  | [_] => .error .unpaired
  | amount :: unit :: rest =>
    match Text.int64? amount with
    | none => .error (.notInteger amount)
    | some n =>
      match unitSeconds? unit with
      | none => .error (.unknownUnit unit)
      | some k =>
        if inInt64 (n * k) && inInt64 (sum + n * k) then addPairs (sum + n * k) rest
        else .error .outOfRange

/-- The instant that a text names, seen from `now`. -/
def resolve (text : String) (now : Instant) : Except Failure Instant :=
  let text := Text.lowerCase text
  let ws := words text
  let future := ws.head? == some "in"
  let past := ws.getLast? == some "ago"
  if !future && !past && text != "now" then .error .noDirection
  else if future && past then .error .bothDirections
  else
    let amounts := if future then ws.drop 1 else ws.dropLast
    if amounts.length % 2 ≠ 0 then .error .unpaired
    else match addPairs 0 amounts with
      | .error e => .error e
      | .ok seconds =>
        let step := if future then seconds else if past then -seconds else 0
        match now.addSeconds? step with
        | some t => .ok t
        | none => .error .outOfRange

end Docstore.Time.Relative
