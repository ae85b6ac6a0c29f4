import Docstore.Time.Iso
import Mathlib.Tactic.IntervalCases

/-!
# Dates and times as text

A date is found again from the number of its day (`ofDays_toDays`), and digits with zeros in front are read as the
number they were written for. So a time of day in a year of four digits, as a text to the millisecond, is written
as it was read (`IsIso.toIso_ofIso?`).
-/

namespace Docstore

/-! ## The calendar -/

namespace Time

/-- Days are counted in such a way that the year is found again: `doe` is the day of the era of 400 years, `doy`
the day of the year, which begins in March. -/
theorem yearOfEra_of_day {y doy : Int} (hy : 0 ≤ y ∧ y < 400) (hd : 0 ≤ doy ∧ doy ≤ 365)
    (hleap : doy = 365 → y % 4 = 3 ∧ (y % 100 ≠ 99 ∨ y = 399)) {doe : Int}
    (h : doe = y * 365 + y / 4 - y / 100 + doy) :
    0 ≤ doe ∧ doe < 146097 ∧ (doe - doe / 1460 + doe / 36524 - doe / 146096) / 365 = y := by
  -- The century of the era, the four years of the century and the year of the four.
  obtain ⟨c, hc⟩ : ∃ c, c = y / 100 := ⟨_, rfl⟩
  obtain ⟨f, hf⟩ : ∃ f, f = y % 100 / 4 := ⟨_, rfl⟩
  obtain ⟨r, hr⟩ : ∃ r, r = y % 4 := ⟨_, rfl⟩
  have hbounds : 0 ≤ c ∧ c < 4 ∧ 0 ≤ f ∧ f < 25 ∧ 0 ≤ r ∧ r < 4 := by omega
  have hyear : y = 100 * c + 4 * f + r := by omega
  have hdoe : doe = 36524 * c + 1461 * f + 365 * r + doy := by omega
  have hlast : doy = 365 → r = 3 ∧ (f < 24 ∨ c = 3) := by
    intro he
    have hy := hleap he
    omega
  clear hleap hc hf hr h hy
  have hcentury : doe / 36524 - doe / 146096 = c := by
    by_cases hs : 1461 * f + 365 * r + doy < 36524
    · have h1 : doe / 36524 = c := by omega
      have h2 : doe / 146096 = 0 := by omega
      omega
    · have h1 : doe = 146096 := by omega
      omega
  obtain ⟨e, he, hfour⟩ : ∃ e, (e = 0 ∧ doy ≠ 365 ∨ e = 1 ∧ 0 < doy) ∧ doe / 1460 = 25 * c + f + e := by
    by_cases hs : 1460 ≤ 24 * c + f + 365 * r + doy
    · exact ⟨1, .inr ⟨rfl, by omega⟩, by omega⟩
    · exact ⟨0, .inl ⟨rfl, by omega⟩, by omega⟩
  have hsum : doe - doe / 1460 + doe / 36524 - doe / 146096 = (doy - e) + 365 * y := by
    rw [hfour]
    generalize doe / 36524 = a at *
    generalize doe / 146096 = b at *
    omega
  refine ⟨by omega, by omega, ?_⟩
  rw [hsum, Int.add_mul_ediv_left _ _ (by decide)]
  omega

theorem daysInMonth_le (year : Int) (month : Nat) :
    daysInMonth year month ≤ 31 ∧ (month ∈ [4, 6, 9, 11] → daysInMonth year month ≤ 30) := by
  unfold daysInMonth
  split
  · split <;> decide
  all_goals simp_all

namespace Date

variable {d : Date}

/-- The month, counted from March. -/
def marchMonth (d : Date) : Int := if d.month ≤ 2 then d.month + 9 else d.month - 3

/-- The year that begins in March. -/
def marchYear (d : Date) : Int := if d.month ≤ 2 then d.year - 1 else d.year

/-- The day of the year that begins in March. -/
def dayOfYear (d : Date) : Int := (153 * d.marchMonth + 2) / 5 + d.day - 1

theorem toDays_eq (d : Date) :
    d.toDays = d.marchYear / 400 * 146097 + (d.marchYear % 400 * 365 + d.marchYear % 400 / 4 -
      d.marchYear % 400 / 100 + d.dayOfYear) - epochOffset := rfl

theorem isValid_iff :
    d.isValid = true ↔ 1 ≤ d.month ∧ d.month ≤ 12 ∧ 1 ≤ d.day ∧ d.day ≤ daysInMonth d.year d.month := by
  simp only [isValid, Bool.and_eq_true, decide_eq_true_eq, and_assoc]

theorem isLeapYear_iff (y : Int) : isLeapYear y = true ↔ y % 4 = 0 ∧ (y % 100 ≠ 0 ∨ y % 400 = 0) := by
  simp [isLeapYear]

/-- The month is found again from the day of the year, and only a leap day is behind 365 others. -/
theorem dayOfYear_spec (h : d.isValid = true) :
    0 ≤ d.dayOfYear ∧ d.dayOfYear ≤ 365 ∧ (5 * d.dayOfYear + 2) / 153 = d.marchMonth ∧
      (d.dayOfYear = 365 → d.marchYear % 4 = 3 ∧ (d.marchYear % 100 ≠ 99 ∨ d.marchYear % 400 = 399)) := by
  obtain ⟨year, month, day⟩ := d
  obtain ⟨h1, h2, h3, h4⟩ := isValid_iff.mp h
  simp only [dayOfYear, marchMonth, marchYear] at *
  clear h
  by_cases hmonth : month = 2
  · subst hmonth
    simp only [daysInMonth] at h4
    split at h4
    · rename_i hleap
      rw [isLeapYear_iff] at hleap
      simp only [Nat.reduceLeDiff, if_true]
      omega
    · simp only [Nat.reduceLeDiff, if_true]
      omega
  · obtain ⟨hlong, hshort⟩ := daysInMonth_le year month
    have hdays : day ≤ 31 ∧ (month ∈ [4, 6, 9, 11] → day ≤ 30) := ⟨h4.trans hlong, fun h => h4.trans (hshort h)⟩
    clear h4 hlong hshort
    interval_cases month <;> simp_all <;> omega

theorem ofDays_toDays (h : d.isValid = true) : ofDays d.toDays = d := by
  obtain ⟨hlow, hhigh, hmonth, hleap⟩ := dayOfYear_spec h
  obtain ⟨h1, h2, h3, h4⟩ := isValid_iff.mp h
  have hera := Int.emod_nonneg d.marchYear (show (400 : Int) ≠ 0 by decide)
  have hera' := Int.emod_lt_of_pos d.marchYear (show (0 : Int) < 400 by decide)
  obtain ⟨doe, hdoe⟩ : ∃ doe, doe = d.marchYear % 400 * 365 + d.marchYear % 400 / 4 -
      d.marchYear % 400 / 100 + d.dayOfYear := ⟨_, rfl⟩
  obtain ⟨hdoe1, hdoe2, hyear⟩ := yearOfEra_of_day ⟨hera, hera'⟩ ⟨hlow, hhigh⟩ (fun e => by
    have := hleap e
    omega) hdoe
  have hdays : d.toDays + epochOffset = doe + 146097 * (d.marchYear / 400) := by
    rw [hdoe, toDays_eq]
    omega
  have hera : (doe + 146097 * (d.marchYear / 400)) / 146097 = d.marchYear / 400 := by omega
  have hday : (doe + 146097 * (d.marchYear / 400)) % 146097 = doe := by omega
  have hdoy : doe - (365 * (d.marchYear % 400) + d.marchYear % 400 / 4 - d.marchYear % 400 / 100) =
      d.dayOfYear := by omega
  have hyears : d.marchYear % 400 + d.marchYear / 400 * 400 = d.marchYear := by omega
  simp only [ofDays, hdays, hera, hday, hyear, hdoy, hmonth, hyears]
  obtain ⟨year, month, day⟩ := d
  simp only [dayOfYear, marchMonth, marchYear] at *
  rw [Date.mk.injEq]
  clear hleap hdoe hdoe1 hdoe2 hyear hdays hera hday hdoy hyears hmonth h4
  split <;> omega

end Date

end Time

/-! ## Digits -/

namespace Text

variable {width n : Nat}

theorem length_padded (hwidth : 0 < width) (h : n < 10 ^ width) : (padded width n).length = width := by
  have hlength := (Nat.length_toDigits_le_iff (by decide) hwidth).mpr h
  simp only [padded, List.length_append, List.length_replicate]
  omega

theorem isDigit_of_mem_padded : ∀ c ∈ padded width n, c.isDigit = true := by
  intro c hc
  rcases List.mem_append.mp hc with hc | hc
  · rw [List.eq_of_mem_replicate hc]
    rfl
  · exact Nat.isDigit_of_mem_toDigits (by decide) (by decide) hc

/-- Digits are read as the number that they write. -/
theorem natural?_eq {cs : List Char} (hne : cs ≠ []) (h : ∀ c ∈ cs, c.isDigit = true) :
    natural? cs = some (Nat.ofDigitChars 10 cs 0) := by
  have hall : (!cs.isEmpty && cs.all Char.isDigit) = true := by
    simpa [hne] using h
  rw [natural?, if_pos hall, Nat.ofDigitChars_eq_foldl]
  simp only [Nat.mul_comm]

theorem natural?_padded : natural? (padded width n) = some n := by
  have hne : padded width n ≠ [] := by
    simp [padded, Nat.toDigits_ne_nil]
  rw [natural?_eq hne isDigit_of_mem_padded, padded, Nat.ofDigitChars_append, Nat.ofDigitChars_replicate_zero,
    Nat.mul_zero, Nat.ofDigitChars_ten_toDigits]

end Text

/-! ## Texts of instants -/

namespace Time

open Docstore.Text (padded)

theorem number?_padded {width n : Nat} (hwidth : 0 < width) (h : n < 10 ^ width) (rest : List Char) :
    number? width (padded width n ++ rest) = some (n, rest) := by
  have hlength := Text.length_padded hwidth h
  have hle : ¬ (padded width n ++ rest).length < width := by
    rw [List.length_append]
    omega
  rw [number?, if_neg hle, List.take_left' hlength, List.drop_left' hlength, Text.natural?_padded]
  rfl

/-- The nanoseconds that the digits behind a point write. -/
def fractionNanos (ds : List Char) : Nat := Nat.ofDigitChars 10 (ds.take 9) 0 * 10 ^ (9 - (ds.take 9).length)

theorem fractionNanos_padded {n : Nat} (h : n < 1000) : fractionNanos (padded 3 n) = n * 1000000 := by
  have hlength : (padded 3 n).length = 3 := Text.length_padded (by decide) h
  have hread : Nat.ofDigitChars 10 (padded 3 n) 0 = n := by
    have hne : padded 3 n ≠ [] := List.ne_nil_of_length_pos (by omega)
    have hnatural := Text.natural?_eq hne Text.isDigit_of_mem_padded
    rw [Text.natural?_padded] at hnatural
    exact (Option.some.inj hnatural).symm
  rw [fractionNanos, List.take_of_length_le (by omega), hlength, hread]
  rfl

/-- Digits behind the seconds, if there are any. -/
def fractionText (ds : List Char) : List Char := if ds = [] then [] else '.' :: ds

theorem nanos?_fractionText {ds : List Char} (hdigits : ∀ c ∈ ds, c.isDigit = true) {c : Char}
    (hdigit : c.isDigit = false) (hpoint : c ≠ '.') (rest : List Char) :
    nanos? (fractionText ds ++ c :: rest) = some (fractionNanos ds, c :: rest) := by
  by_cases hds : ds = []
  · subst hds
    have hother : ∀ rest', c :: rest = '.' :: rest' → False := fun rest' h => hpoint (List.cons.inj h).1
    rw [fractionText, if_pos rfl, List.nil_append, nanos?.eq_2 _ hother]
    rfl
  · have htake : (ds ++ c :: rest).takeWhile Char.isDigit = ds := by
      rw [List.takeWhile_append_of_pos hdigits, List.takeWhile_cons_of_neg (by simp [hdigit]), List.append_nil]
    have hdrop : (ds ++ c :: rest).dropWhile Char.isDigit = c :: rest := by
      rw [List.dropWhile_append_of_pos hdigits, List.dropWhile_cons_of_neg (by simp [hdigit])]
    have hnatural : Text.natural? (ds.take 9) = some (Nat.ofDigitChars 10 (ds.take 9) 0) :=
      Text.natural?_eq (by simpa using hds) fun c hc => hdigits c (List.mem_of_mem_take hc)
    rw [fractionText, if_neg hds, List.cons_append, nanos?, htake, hdrop, hnatural]
    rfl

/-- A date and a time of day as they are written, down to the digits behind the seconds. -/
structure LocalTime where
  date : Date
  hour : Nat
  minute : Nat
  second : Nat
  fraction : List Char

namespace LocalTime

/-- What a text can say of a date and a time of day. The second 60 is a leap second. -/
structure IsWritten (l : LocalTime) : Prop where
  year : 0 ≤ l.date.year ∧ l.date.year < 10000
  date : l.date.isValid = true
  hour : l.hour < 24
  minute : l.minute < 60
  second : l.second ≤ 60
  fraction : ∀ c ∈ l.fraction, c.isDigit = true

/-- The text, but for what says how far ahead of universal time it is. -/
def text (separator : Char) (l : LocalTime) : List Char :=
  padded 4 l.date.year.natAbs ++ '-' :: padded 2 l.date.month ++ '-' :: padded 2 l.date.day ++
    separator :: padded 2 l.hour ++ ':' :: padded 2 l.minute ++ ':' :: padded 2 l.second ++ fractionText l.fraction

/-- The instant, if the time is so many seconds ahead of universal time. -/
def instant (l : LocalTime) (ahead : Int) : Instant :=
  ⟨l.date.toDays * 86400 + ((l.hour * 3600 + l.minute * 60 + min l.second 59 : Nat) : Int) - ahead,
    fractionNanos l.fraction + if l.second = 60 then Instant.nanosPerSecond else 0⟩

end LocalTime

theorem bind_of_eq_some {α β : Type} {o : Option α} {f : α → Option β} {a : α} {b : Option β} (h : o = some a)
    (hf : f a = b) : (o >>= f) = b := by
  rw [h]
  exact hf

/-- A date and a time of day are read as the instant that they are at, with what says how far ahead they are. -/
theorem LocalTime.IsWritten.ofIso? {l : LocalTime} (h : l.IsWritten) {separator : Char}
    (hseparator : ∀ rest, separator? (separator :: rest) = some rest) {c : Char} (hdigit : c.isDigit = false)
    (hpoint : c ≠ '.') {rest : List Char} {ahead : Int} (hahead : offset? (c :: rest) = some (ahead, [])) :
    Instant.ofIso? (String.ofList (l.text separator ++ c :: rest)) = some (l.instant ahead) := by
  obtain ⟨⟨year, month, day⟩, hour, minute, second, fraction⟩ := l
  obtain ⟨hyear, hdate, hhour, hminute, hsecond, hfraction⟩ := h
  simp only at hyear hdate hhour hminute hsecond hfraction
  obtain ⟨year, rfl⟩ := Int.eq_ofNat_of_zero_le hyear.1
  obtain ⟨-, hle, -, hday⟩ := Date.isValid_iff.mp hdate
  have hmonth : month < 100 := Nat.lt_of_le_of_lt hle (by decide)
  have hday' : day < 100 := Nat.lt_of_le_of_lt (hday.trans (daysInMonth_le year month).1) (by decide)
  have h2 {n : Nat} (h : n < 100) (rest : List Char) : number? 2 (padded 2 n ++ rest) = some (n, rest) :=
    number?_padded (by decide) h rest
  have h4 (rest : List Char) : number? 4 (padded 4 year ++ rest) = some (year, rest) :=
    number?_padded (by decide) (by omega) rest
  have hchar (c : Char) (rest : List Char) : char? c (c :: rest) = some rest := if_pos rfl
  have hexists : ¬ (!([] : List Char).isEmpty || !(Date.mk year month day).isValid || decide (24 ≤ hour) ||
      decide (60 ≤ minute) || decide (60 < second)) = true := by
    simp only [hdate, List.isEmpty_nil, Bool.not_true, Bool.false_or, Bool.or_eq_true, decide_eq_true_eq]
    omega
  simp only [text, List.append_assoc, List.cons_append, Int.natAbs_natCast]
  rw [Instant.ofIso?, String.toList_ofList]
  refine bind_of_eq_some (h4 _) ?_
  refine bind_of_eq_some (hchar '-' _) ?_
  refine bind_of_eq_some (h2 hmonth _) ?_
  refine bind_of_eq_some (hchar '-' _) ?_
  refine bind_of_eq_some (h2 hday' _) ?_
  refine bind_of_eq_some (hseparator _) ?_
  refine bind_of_eq_some (h2 (by omega) _) ?_
  refine bind_of_eq_some (hchar ':' _) ?_
  refine bind_of_eq_some (h2 (by omega) _) ?_
  refine bind_of_eq_some (hchar ':' _) ?_
  refine bind_of_eq_some (h2 (by omega) _) ?_
  refine bind_of_eq_some (nanos?_fractionText hfraction hdigit hpoint _) ?_
  refine bind_of_eq_some hahead ?_
  exact if_neg hexists

/-- A date and a time of day to the millisecond, as a text in universal time. -/
def isoText (d : Date) (hour minute second milli : Nat) : List Char :=
  padded 4 d.year.natAbs ++ '-' :: padded 2 d.month ++ '-' :: padded 2 d.day ++ 'T' :: padded 2 hour ++
    ':' :: padded 2 minute ++ ':' :: padded 2 second ++ '.' :: padded 3 milli ++ ['Z']

/-- The text of a moment in a year of four digits, written `YYYY-MM-DDTHH:MM:SS.mmmZ`. The second 60 is a leap
second. -/
def IsIso (s : String) : Prop :=
  ∃ (year month day hour minute second milli : Nat), year < 10000 ∧
    (Date.mk year month day).isValid = true ∧ hour < 24 ∧ minute < 60 ∧ second ≤ 60 ∧ milli < 1000 ∧
    s = String.ofList (isoText ⟨year, month, day⟩ hour minute second milli)

section

variable {year month day hour minute second milli : Nat}

theorem ofIso?_isoText (hyear : year < 10000) (hdate : (Date.mk year month day).isValid = true)
    (hhour : hour < 24) (hminute : minute < 60) (hsecond : second ≤ 60) (hmilli : milli < 1000) :
    Instant.ofIso? (String.ofList (isoText ⟨year, month, day⟩ hour minute second milli)) =
      some ⟨(Date.mk year month day).toDays * 86400 +
          ((hour * 3600 + minute * 60 + min second 59 : Nat) : Int),
        milli * 1000000 + if second = 60 then Instant.nanosPerSecond else 0⟩ := by
  have hwritten : (LocalTime.mk ⟨year, month, day⟩ hour minute second (padded 3 milli)).IsWritten :=
    ⟨⟨Int.natCast_nonneg year, Int.ofNat_lt.mpr hyear⟩, hdate, hhour, hminute, hsecond, Text.isDigit_of_mem_padded⟩
  have hne : padded 3 milli ≠ [] :=
    List.ne_nil_of_length_pos (by rw [Text.length_padded (by decide) hmilli]; decide)
  have hseparator (rest : List Char) : separator? ('T' :: rest) = some rest := rfl
  have hread := hwritten.ofIso? hseparator (c := 'Z') rfl (by decide) rfl
  simp only [LocalTime.text, fractionText, if_neg hne, List.append_assoc, List.cons_append] at hread
  simp only [isoText, List.append_assoc, List.cons_append]
  rw [hread, LocalTime.instant, fractionNanos_padded hmilli, Int.sub_zero]

theorem toIso_isoText (hyear : year < 10000) (hdate : (Date.mk year month day).isValid = true)
    (hhour : hour < 24) (hminute : minute < 60) (hsecond : second ≤ 60) (hmilli : milli < 1000) :
    Instant.toIso ⟨(Date.mk year month day).toDays * 86400 +
        ((hour * 3600 + minute * 60 + min second 59 : Nat) : Int),
      milli * 1000000 + if second = 60 then Instant.nanosPerSecond else 0⟩ =
      String.ofList (isoText ⟨year, month, day⟩ hour minute second milli) := by
  obtain ⟨time, htime⟩ : ∃ time, time = hour * 3600 + minute * 60 + min second 59 := ⟨_, rfl⟩
  have hdays : ((Date.mk year month day).toDays * 86400 + (time : Int)) / 86400 = (Date.mk year month day).toDays := by
    omega
  have hrest : (((Date.mk year month day).toDays * 86400 + (time : Int)) % 86400).toNat = time := by omega
  obtain ⟨leap, hleap⟩ : ∃ leap, leap = if second = 60 then Instant.nanosPerSecond else 0 := ⟨_, rfl⟩
  have hnanos : (milli * 1000000 + leap) % Instant.nanosPerSecond / 1000000 = milli := by
    rw [hleap, Instant.nanosPerSecond]
    split <;> omega
  have hseconds : time % 60 + (milli * 1000000 + leap) / Instant.nanosPerSecond = second := by
    rw [hleap, Instant.nanosPerSecond]
    split <;> omega
  have hh : time / 3600 = hour := by omega
  have hm : time / 60 % 60 = minute := by omega
  have htext : yearText (year : Int) = padded 4 (year : Int).natAbs := by
    rw [yearText, if_neg (by omega), if_neg (by omega)]
  rw [← htime, ← hleap, Instant.toIso, isoText]
  simp only [hdays, hrest, Date.ofDays_toDays hdate, hnanos, hseconds, hh, hm, htext]

end

/-- A moment in a year of four digits is written as it was read. -/
theorem IsIso.toIso_ofIso? {s : String} (h : IsIso s) : ∃ t, Instant.ofIso? s = some t ∧ t.toIso = s := by
  obtain ⟨year, month, day, hour, minute, second, milli, hyear, hdate, hhour, hminute, hsecond, hmilli, rfl⟩ := h
  exact ⟨_, ofIso?_isoText hyear hdate hhour hminute hsecond hmilli,
    toIso_isoText hyear hdate hhour hminute hsecond hmilli⟩

end Time

end Docstore
