import Docstore.Proofs.Time.Iso

/-!
# Days of the calendar

From a date to the next one and back the calendar moves by a day (`toDays_next`, `toDays_previous`). So every number of
a day belongs to a date, which is the one that is found for it (`isValid_ofDays`, `toDays_ofDays`).
-/

namespace Docstore.Time.Date

variable {d : Date}

/-! ## The next day and the day before -/

def next (d : Date) : Date :=
  if d.day < daysInMonth d.year d.month then ⟨d.year, d.month, d.day + 1⟩
  else if d.month < 12 then ⟨d.year, d.month + 1, 1⟩
  else ⟨d.year + 1, 1, 1⟩

def previous (d : Date) : Date :=
  if 1 < d.day then ⟨d.year, d.month, d.day - 1⟩
  else if 1 < d.month then ⟨d.year, d.month - 1, daysInMonth d.year (d.month - 1)⟩
  else ⟨d.year - 1, 12, 31⟩

theorem one_le_daysInMonth (year : Int) (month : Nat) : 1 ≤ daysInMonth year month := by
  unfold daysInMonth
  split
  · split <;> decide
  all_goals decide

theorem isValid_next (h : d.isValid = true) : d.next.isValid = true := by
  obtain ⟨h1, h2, h3, h4⟩ := isValid_iff.mp h
  have hfirst := one_le_daysInMonth d.year (d.month + 1)
  rw [isValid_iff, next]
  split
  · simp only
    omega
  · split
    · simp only
      omega
    · simp [daysInMonth]

theorem isValid_previous (h : d.isValid = true) : d.previous.isValid = true := by
  obtain ⟨h1, h2, h3, h4⟩ := isValid_iff.mp h
  have hlast := one_le_daysInMonth d.year (d.month - 1)
  rw [isValid_iff, previous]
  split
  · simp only
    omega
  · split
    · simp only
      omega
    · simp [daysInMonth]

theorem next_previous (h : d.isValid = true) : d.previous.next = d := by
  obtain ⟨year, month, day⟩ := d
  obtain ⟨h1, h2, h3, h4⟩ := isValid_iff.mp h
  simp only at h1 h2 h3 h4
  simp only [previous]
  split
  · rw [next, if_pos (by simp only; omega)]
    simp only [mk.injEq, true_and]
    omega
  · have hday : day = 1 := by omega
    subst hday
    split
    · rw [next, if_neg (by simp), if_pos (by simp only; omega)]
      simp only [mk.injEq, true_and, and_true]
      omega
    · have hmonth : month = 1 := by omega
      subst hmonth
      simp [next, daysInMonth]

/-! ## Days are counted one by one -/

/-- The days in front of the first of March of a year. -/
def daysBefore (y : Int) : Int := y / 400 * 146097 + (y % 400 * 365 + y % 400 / 4 - y % 400 / 100)

theorem toDays_eq_daysBefore (d : Date) : d.toDays = daysBefore d.marchYear + d.dayOfYear - epochOffset := by
  rw [toDays_eq, daysBefore]
  omega

theorem daysBefore_succ (y : Int) : daysBefore (y + 1) = daysBefore y + if isLeapYear (y + 1) then 366 else 365 := by
  have hleap := isLeapYear_iff (y + 1)
  simp only [daysBefore]
  by_cases h : isLeapYear (y + 1) = true
  · rw [if_pos h]
    have := hleap.mp h
    omega
  · rw [if_neg h]
    have := mt hleap.mpr h
    omega

theorem toDays_next (h : d.isValid = true) : d.next.toDays = d.toDays + 1 := by
  obtain ⟨year, month, day⟩ := d
  obtain ⟨h1, h2, h3, h4⟩ := isValid_iff.mp h
  simp only at h1 h2 h3 h4
  have hyear := daysBefore_succ (year - 1)
  rw [Int.sub_add_cancel] at hyear
  simp only [next]
  split
  · simp only [toDays_eq_daysBefore, marchYear, dayOfYear, marchMonth]
    omega
  · rename_i hlast
    have hday : day = daysInMonth year month := by omega
    subst hday
    clear h h3 h4 hlast
    split
    · by_cases hmonth : month = 2
      · -- The year that begins in March ends here.
        subst hmonth
        simp only [toDays_eq_daysBefore, marchYear, dayOfYear, marchMonth, daysInMonth, Nat.reduceAdd,
          Nat.reduceLeDiff, if_true, if_false]
        split at hyear <;> simp_all <;> omega
      · simp only [toDays_eq_daysBefore, marchYear, dayOfYear, marchMonth]
        clear hyear
        interval_cases month <;> simp_all [daysInMonth] <;> omega
    · have hmonth : month = 12 := by omega
      subst hmonth
      simp only [toDays_eq_daysBefore, marchYear, dayOfYear, marchMonth, daysInMonth, Nat.reduceLeDiff, if_true,
        if_false, Int.add_sub_cancel]
      omega

theorem toDays_previous (h : d.isValid = true) : d.previous.toDays = d.toDays - 1 := by
  have hnext := toDays_next (isValid_previous h)
  rw [next_previous h] at hnext
  omega

theorem exists_toDays (n : Int) : ∃ d : Date, d.isValid = true ∧ d.toDays = n := by
  -- From the day 0 on, one day after the other in both directions.
  induction n using Int.induction_on with
  | zero => exact ⟨⟨1970, 1, 1⟩, by decide, by decide⟩
  | succ n ih =>
      obtain ⟨d, hd, hdays⟩ := ih
      exact ⟨d.next, isValid_next hd, by rw [toDays_next hd, hdays]⟩
  | pred n ih =>
      obtain ⟨d, hd, hdays⟩ := ih
      exact ⟨d.previous, isValid_previous hd, by rw [toDays_previous hd, hdays]⟩

theorem isValid_ofDays (n : Int) : (ofDays n).isValid = true := by
  obtain ⟨d, hd, rfl⟩ := exists_toDays n
  rw [ofDays_toDays hd]
  exact hd

theorem toDays_ofDays (n : Int) : (ofDays n).toDays = n := by
  obtain ⟨d, hd, rfl⟩ := exists_toDays n
  rw [ofDays_toDays hd]

end Docstore.Time.Date
