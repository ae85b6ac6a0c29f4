import Docstore.Text.Integer
import Docstore.Time.Instant

/-!
# Dates as text

Instants are written in universal time with three places. What is read may have any number of
places and any offset of less than a day; a blank may stand for the `T`.
-/

namespace Docstore.Time

open Docstore.Text (padded)

/-- Four digits, or a sign and at least four for years before zero and after 9999. -/
def yearText (y : Int) : List Char :=
  if y < 0 then '-' :: padded 4 y.natAbs
  else if 9999 < y then '+' :: padded 4 y.natAbs
  else padded 4 y.natAbs

/-- The text of an instant, cut to milliseconds. A leap second is the second 60. -/
def Instant.toIso (t : Instant) : String :=
  let date := Date.ofDays (t.seconds / 86400)
  let time := (t.seconds % 86400).toNat
  let second := time % 60 + t.nanos / nanosPerSecond
  String.ofList <|
    yearText date.year ++ '-' :: padded 2 date.month ++ '-' :: padded 2 date.day ++
      'T' :: padded 2 (time / 3600) ++ ':' :: padded 2 (time / 60 % 60) ++ ':' :: padded 2 second ++
      '.' :: padded 3 (t.nanos % nanosPerSecond / 1000000) ++ ['Z']

/-! ## Reading -/

/-- The number that exactly `width` digits write, and what follows them. -/
def number? (width : Nat) (cs : List Char) : Option (Nat × List Char) :=
  if cs.length < width then none
  else (Text.natural? (cs.take width)).map (·, cs.drop width)

def char? (c : Char) : List Char → Option (List Char)
  | [] => none
  | d :: rest => if d = c then some rest else none

/-- Nanoseconds behind a point; places beyond the ninth are dropped. -/
def nanos? : List Char → Option (Nat × List Char)
  | '.' :: rest =>
    let ds := rest.takeWhile Char.isDigit
    let used := ds.take 9
    (Text.natural? used).map fun n => (n * Nat.pow 10 (9 - used.length), rest.dropWhile Char.isDigit)
  | cs => some (0, cs)

/-- Seconds by which local time is ahead of universal time. -/
def offset? : List Char → Option (Int × List Char)
  | 'Z' :: rest => some (0, rest)
  | 'z' :: rest => some (0, rest)
  | sign :: rest =>
    if sign = '+' || sign = '-' || sign = '−' then do
      let (hours, rest) ← number? 2 rest
      let rest ← char? ':' rest
      let (minutes, rest) ← number? 2 rest
      if 24 ≤ hours || 60 ≤ minutes then none
      let seconds : Int := hours * 3600 + minutes * 60
      return (if sign = '+' then seconds else -seconds, rest)
    else none
  | [] => none

/-- The mark between date and time. -/
def separator? : List Char → Option (List Char)
  | c :: rest => if c = 'T' || c = 't' || c = ' ' then some rest else none
  | [] => none

/-- The instant that a text names. The second 60 is a leap second at the end of any minute. -/
def Instant.ofIso? (s : String) : Option Instant := do
  let (year, rest) ← number? 4 s.toList
  let rest ← char? '-' rest
  let (month, rest) ← number? 2 rest
  let rest ← char? '-' rest
  let (day, rest) ← number? 2 rest
  let rest ← separator? rest
  let (hour, rest) ← number? 2 rest
  let rest ← char? ':' rest
  let (minute, rest) ← number? 2 rest
  let rest ← char? ':' rest
  let (second, rest) ← number? 2 rest
  let (nanos, rest) ← nanos? rest
  let (offset, rest) ← offset? rest
  let date : Date := ⟨year, month, day⟩
  if !rest.isEmpty || !date.isValid || 24 ≤ hour || 60 ≤ minute || 60 < second then none
  let time := hour * 3600 + minute * 60 + min second 59
  return ⟨date.toDays * 86400 + time - offset, nanos + if second = 60 then Instant.nanosPerSecond else 0⟩

end Docstore.Time
