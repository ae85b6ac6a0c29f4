import Docstore.Proofs.Time.Days

/-!
# Instants and their texts

What a text says and what an instant is written as. In years of four digits an instant is read as it was written, to
the millisecond (`ofIso?_toIso`). A local time with its offset is read as the universal time to which the calendar and
the clock turn it (`instant_universal`).
-/

namespace Docstore.Time

open Docstore.Text (padded)

/-! ## Instants -/

namespace Instant

variable {t : Instant}

/-- The date of an instant in universal time. -/
def date (t : Instant) : Date := Date.ofDays (t.seconds / 86400)

/-- The instant, cut down to a whole number of milliseconds. -/
def toMillis (t : Instant) : Instant := ⟨t.seconds, t.nanos / 1000000 * 1000000⟩

/-- The date and the seconds of the day make up the instant. -/
theorem date_spec (t : Instant) : t.date.isValid = true ∧ t.date.toDays * 86400 + t.seconds % 86400 = t.seconds := by
  refine ⟨Date.isValid_ofDays _, ?_⟩
  rw [date, Date.toDays_ofDays]
  omega

theorem toIso_toMillis (t : Instant) : t.toMillis.toIso = t.toIso := by
  have hseconds : t.nanos / 1000000 * 1000000 / nanosPerSecond = t.nanos / nanosPerSecond := by
    rw [nanosPerSecond]
    omega
  have hmillis : t.nanos / 1000000 * 1000000 % nanosPerSecond / 1000000 = t.nanos % nanosPerSecond / 1000000 := by
    rw [nanosPerSecond]
    omega
  simp only [toIso, toMillis, hseconds, hmillis]

/-- An instant is read as it was written. -/
theorem ofIso?_toIso (hyear : 0 ≤ t.date.year ∧ t.date.year < 10000) (hleap : t.isLeap = false) :
    ofIso? t.toIso = some t.toMillis := by
  obtain ⟨hdate, hdays⟩ := t.date_spec
  obtain ⟨⟨year, month, day⟩, hd⟩ : ∃ d, d = t.date := ⟨_, rfl⟩
  rw [← hd] at hyear hdate hdays
  obtain ⟨year, rfl⟩ := Int.eq_ofNat_of_zero_le hyear.1
  obtain ⟨time, htime⟩ : ∃ time : Nat, time = (t.seconds % 86400).toNat := ⟨_, rfl⟩
  have hnanos : t.nanos < 1000000000 := Nat.not_le.mp (of_decide_eq_false hleap)
  have hsecond : time % 60 ≠ 60 := by omega
  -- The fields that are written, put together again.
  have hfields : t.toMillis = ⟨(Date.mk year month day).toDays * 86400 +
      ((time / 3600 * 3600 + time / 60 % 60 * 60 + min (time % 60) 59 : Nat) : Int),
      t.nanos / 1000000 * 1000000 + if time % 60 = 60 then nanosPerSecond else 0⟩ := by
    rw [if_neg hsecond, toMillis, mk.injEq]
    omega
  rw [← toIso_toMillis, hfields, toIso_isoText (Int.ofNat_lt.mp hyear.2) hdate (by omega) (by omega) (by omega)
    (by omega), ofIso?_isoText (Int.ofNat_lt.mp hyear.2) hdate (by omega) (by omega) (by omega) (by omega)]

end Instant

/-! ## Offsets -/

/-- How far local time is ahead of universal time, or behind it. -/
structure Offset where
  behind : Bool
  hours : Nat
  minutes : Nat
  hours_lt : hours < 24
  minutes_lt : minutes < 60

namespace Offset

/-- The minutes by which local time is ahead. -/
def ahead (o : Offset) : Int := if o.behind then -(o.hours * 60 + o.minutes) else o.hours * 60 + o.minutes

def sign (o : Offset) : Char := if o.behind then '-' else '+'

def text (o : Offset) : List Char := o.sign :: (padded 2 o.hours ++ ':' :: padded 2 o.minutes)

theorem ahead_bounds (o : Offset) : -1440 < o.ahead ∧ o.ahead < 1440 := by
  have := o.hours_lt
  have := o.minutes_lt
  unfold ahead
  split <;> omega

theorem offset?_text (o : Offset) : offset? o.text = some (o.ahead * 60, []) := by
  obtain ⟨behind, hours, minutes, hhours, hminutes⟩ := o
  have hread : number? 2 (padded 2 hours ++ ':' :: padded 2 minutes) = some (hours, ':' :: padded 2 minutes) :=
    number?_padded (by decide) (by omega) _
  have hread' : number? 2 (padded 2 minutes) = some (minutes, []) := by
    simpa using (number?_padded (by decide) (by omega) [] : number? 2 (padded 2 minutes ++ []) = some (minutes, []))
  have hcolon (rest : List Char) : char? ':' (':' :: rest) = some rest := rfl
  cases behind <;> simp [text, sign, ahead, offset?, hread, hread', hcolon, hhours, hminutes] <;> omega

end Offset

/-! ## Universal time -/

namespace LocalTime

variable {l : LocalTime} {ahead : Int}

/-- The universal time of a local time that is so many minutes ahead. The hours turn over at midnight, to the next day
or to the day before. -/
def universal (l : LocalTime) (ahead : Int) : LocalTime :=
  let minutes : Int := l.hour * 60 + l.minute - ahead
  let date := if minutes < 0 then l.date.previous else if 1440 ≤ minutes then l.date.next else l.date
  let minuteOfDay := (minutes % 1440).toNat
  ⟨date, minuteOfDay / 60, minuteOfDay % 60, l.second, l.fraction⟩

theorem instant_universal (h : l.IsWritten) (hahead : -1440 < ahead ∧ ahead < 1440) :
    (l.universal ahead).instant 0 = l.instant (ahead * 60) := by
  have hhour := h.hour
  have hminute := h.minute
  have hnext := Date.toDays_next h.date
  have hprevious := Date.toDays_previous h.date
  refine congrArg (Instant.mk · _) ?_
  simp only [universal]
  split
  · omega
  · split <;> omega

theorem IsWritten.universal (h : l.IsWritten)
    (hyear : 0 ≤ (l.universal ahead).date.year ∧ (l.universal ahead).date.year < 10000) :
    (l.universal ahead).IsWritten where
  year := hyear
  date := by
    simp only [LocalTime.universal]
    split
    · exact Date.isValid_previous h.date
    · split
      · exact Date.isValid_next h.date
      · exact h.date
  hour := by
    simp only [LocalTime.universal]
    omega
  minute := Nat.mod_lt _ (by decide)
  second := h.second
  fraction := h.fraction

end LocalTime

end Docstore.Time
