import Docstore.Proofs.Encoding.Canonical
import Docstore.Proofs.Time.Offsets

/-!
# Dates of documents

Main statement: a date is read as the instant that it was written for, is written as it was read, and is read alike
with an offset and in universal time (`dates_round_trip`).
-/

namespace Docstore.Encoding

open Docstore.Time (Instant IsIso LocalTime Offset)

/-- The marks that stand between a date and a time of day. -/
def IsSeparator (c : Char) : Prop := c ∈ ['T', 't', ' ']

theorem IsSeparator.separator? {c : Char} (h : IsSeparator c) (rest : List Char) :
    Time.separator? (c :: rest) = some rest := by
  simp only [IsSeparator, List.mem_cons, List.not_mem_nil, or_false] at h
  rcases h with rfl | rfl | rfl <;> rfl

def offsetText (separator : Char) (l : LocalTime) (o : Offset) : String := String.ofList (l.text separator ++ o.text)

/-- A universal time as a text, behind which stands a mark of universal time. -/
def universalText (separator : Char) (l : LocalTime) (mark : Char) : String :=
  String.ofList (l.text separator ++ [mark])

theorem date_offsetText {l : LocalTime} (h : l.IsWritten) (o : Offset) {separator : Char}
    (hseparator : IsSeparator separator) :
    date (.string (offsetText separator l o)) = .ok (l.instant (o.ahead * 60)) := by
  have hsign : o.sign.isDigit = false ∧ o.sign ≠ '.' := by
    unfold Offset.sign
    split <;> decide
  exact date_string (h.ofIso? hseparator.separator? hsign.1 hsign.2 o.offset?_text)

theorem date_universalText {l : LocalTime} (h : l.IsWritten) {separator mark : Char}
    (hseparator : IsSeparator separator) (hmark : mark ∈ ['Z', 'z']) :
    date (.string (universalText separator l mark)) = .ok (l.instant 0) := by
  simp only [List.mem_cons, List.not_mem_nil, or_false] at hmark
  rcases hmark with rfl | rfl
  · exact date_string (h.ofIso? hseparator.separator? rfl (by decide) rfl)
  · exact date_string (h.ofIso? hseparator.separator? rfl (by decide) rfl)

/-- Dates of years of four digits are kept. An instant without a leap second is read as it was written, alone or as a
typed value, cut down to milliseconds. A text to the millisecond is written as it was read. A local time with an offset is
read, and as the universal time that the clock and the calendar show with it, if that can be written. -/
theorem dates_round_trip :
    (∀ t : Instant, 0 ≤ t.date.year → t.date.year < 10000 → t.isLeap = false →
      date (.string t.toIso) = .ok t.toMillis ∧
        ∀ v : Json, v.HasExactly (dateFields t.toIso) → date v = .ok t.toMillis) ∧
      (∀ s, IsIso s → ∃ t, date (.string s) = .ok t ∧ t.toIso = s) ∧
      ∀ (l : LocalTime) (o : Offset) (separator : Char), l.IsWritten → IsSeparator separator →
        ∃ t, date (.string (offsetText separator l o)) = .ok t ∧
          ∀ separator' mark, IsSeparator separator' → mark ∈ ['Z', 'z'] →
            0 ≤ (l.universal o.ahead).date.year → (l.universal o.ahead).date.year < 10000 →
            date (.string (universalText separator' (l.universal o.ahead) mark)) = .ok t := by
  refine ⟨fun t hlow hhigh hleap => ?_, fun s hs => ?_, fun l o separator hl hseparator => ?_⟩
  · have hread := date_string (Instant.ofIso?_toIso ⟨hlow, hhigh⟩ hleap)
    exact ⟨hread, fun v hv => (date_of_fields hv).trans hread⟩
  · obtain ⟨t, ht, htext⟩ := hs.toIso_ofIso?
    exact ⟨t, date_string ht, htext⟩
  · refine ⟨_, date_offsetText hl o hseparator, fun separator' mark hseparator' hmark hlow hhigh => ?_⟩
    rw [date_universalText (hl.universal ⟨hlow, hhigh⟩) hseparator' hmark,
      LocalTime.instant_universal hl o.ahead_bounds]

theorem dates_round_trip_newYear :
    ∃ t, date (.string "2024-01-01T00:30:00.5+01:00") = .ok t ∧ date (.string "2023-12-31t23:30:00.5Z") = .ok t := by
  obtain ⟨t, hlocal, huniversal⟩ := dates_round_trip.2.2 ⟨⟨2024, 1, 1⟩, 0, 30, 0, ['5']⟩
    ⟨false, 1, 0, by decide, by decide⟩ 'T'
    ⟨by decide, by decide, by decide, by decide, by decide, List.forall_mem_singleton.mpr rfl⟩ (.head _)
  exact ⟨t, hlocal, huniversal 't' 'Z' (.tail _ (.head _)) (.head _) (by decide) (by decide)⟩

end Docstore.Encoding
