import Docstore.Time.Calendar

/-!
# Instants

An instant is a number of seconds since the start of 1970, cut down to whole ones, and the
nanoseconds beyond them. A leap second is kept in the second before it, as a second full of
nanoseconds more.
-/

namespace Docstore.Time

structure Instant where
  seconds : Int
  nanos : Nat
deriving DecidableEq, Repr

namespace Instant

/-- The first second of the calendar's first year, -262143. -/
def minSeconds : Int := -8334601228800

/-- The last second of the calendar's last year, 262142. -/
def maxSeconds : Int := 8210266876799

def isInRange (t : Instant) : Bool :=
  decide (minSeconds ≤ t.seconds) && decide (t.seconds ≤ maxSeconds)

/-- The nanoseconds in a second. -/
def nanosPerSecond : Nat := 1000000000

def isLeap (t : Instant) : Bool := decide (nanosPerSecond ≤ t.nanos)

/--
The instant some seconds later. A step forward out of a leap second counts from the second that
holds it, a step back from the second behind it.
-/
def addSeconds (t : Instant) (n : Int) : Instant :=
  if t.isLeap && n != 0 then
    ⟨(if 0 < n then t.seconds else t.seconds + 1) + n, t.nanos - nanosPerSecond⟩
  else ⟨t.seconds + n, t.nanos⟩

/-- The same, if the calendar reaches that far. -/
def addSeconds? (t : Instant) (n : Int) : Option Instant :=
  let later := t.addSeconds n
  if later.isInRange then some later else none

end Instant

end Docstore.Time
