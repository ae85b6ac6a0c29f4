import Docstore.Store.Indexes
import Mathlib.Data.List.TakeWhile

/-!
# Fields of duplicate values

A duplicate value is said to be of the field that the name of the violated constraint tells. Main statement: for a
unique index over one field this is the field itself just if the letters behind the first mark in the name are its name
(`duplicatedField?_iff`).
-/

namespace Docstore

/-! ## Behind a mark -/

/-- No end of a mark is its beginning, so that two of them do not overlap. -/
def Unbordered (mark : List Char) : Prop := ∀ k < mark.length, 0 < k → ¬mark.drop k <+: mark

variable {mark : List Char}

/-- Where a mark begins before another one, it is over by then. -/
theorem Unbordered.prefix_of_append (hmark : Unbordered mark) {cs : List Char} (hcs : cs ≠ []) {tail : List Char}
    (h : mark <+: cs ++ (mark ++ tail)) : mark <+: cs := by
  by_cases hlength : mark.length ≤ cs.length
  · exact List.prefix_of_prefix_length_le h (List.prefix_append _ _) hlength
  · exfalso
    rw [not_le] at hlength
    have hstart : cs <+: mark := List.prefix_of_prefix_length_le (List.prefix_append _ _) h hlength.le
    obtain ⟨rest, rfl⟩ := hstart
    have hrest : rest <+: cs ++ rest := by
      refine List.prefix_of_prefix_length_le ((List.prefix_append_right_inj cs).mp h) (List.prefix_append _ _) ?_
      rw [List.length_append]
      exact Nat.le_add_left _ _
    refine hmark cs.length hlength (List.length_pos_iff.mpr hcs) ?_
    rwa [List.drop_left]

theorem behindMark?_append (hmark : Unbordered mark) (hne : mark ≠ []) (cs tail : List Char) :
    behindMark? mark (cs ++ (mark ++ tail)) =
      some ((behindMark? mark cs).elim tail fun rest => rest ++ (mark ++ tail)) := by
  induction cs with
  | nil =>
      cases mark with
      | nil => exact absurd rfl hne
      | cons m mark =>
          have hstart : (m :: mark).isPrefixOf (m :: (mark ++ tail)) = true :=
            List.isPrefixOf_iff_prefix.mpr (List.prefix_append (m :: mark) tail)
          have hnone : behindMark? (m :: mark) [] = none := rfl
          rw [hnone, List.nil_append, List.cons_append, behindMark?, if_pos hstart, ← List.cons_append, List.drop_left]
          rfl
  | cons c cs ih =>
      have hstart : mark.isPrefixOf (c :: (cs ++ (mark ++ tail))) = true ↔ mark.isPrefixOf (c :: cs) = true := by
        rw [List.isPrefixOf_iff_prefix, List.isPrefixOf_iff_prefix]
        exact ⟨hmark.prefix_of_append (List.cons_ne_nil c cs), fun h => h.trans (List.prefix_append _ _)⟩
      rw [List.cons_append, behindMark?, behindMark?]
      by_cases h : mark.isPrefixOf (c :: cs) = true
      · have hlength : mark.length ≤ (c :: cs).length := (List.isPrefixOf_iff_prefix.mp h).length_le
        rw [if_pos (hstart.mpr h), if_pos h, ← List.cons_append, List.drop_append_of_le_length hlength]
        rfl
      · rw [if_neg (mt hstart.mp h), if_neg h, ih]

/-! ## The field that a name tells -/

/-- What stands before the field in the name of a constraint. -/
def uniqueMark : List Char := "unique_".toList

theorem unbordered_uniqueMark : Unbordered uniqueMark := by
  unfold Unbordered
  decide

/-- The letters that are read from the name of a unique index over one field. -/
def lettersTold (className field : String) : List Char :=
  ((behindMark? uniqueMark (className ++ "_").toList).elim field.toList fun rest =>
    rest ++ (uniqueMark ++ field.toList)).takeWhile Char.isAlpha

/-- The mark stands between the name of the class and that of the field, be it there before or not. -/
theorem toList_sortedName (className field : String) : (Index.sortedName className "unique" [field]).toList =
    (className ++ "_").toList ++ (uniqueMark ++ field.toList) := by
  have hmark : ("unique" ++ "_" : String).toList = uniqueMark := by decide
  rw [Index.sortedName, List.mergeSort_singleton, String.intercalate_singleton, ← hmark]
  simp only [String.toList_append, List.append_assoc]

theorem uniqueField?_sortedName (className field : String) :
    uniqueField? (Index.sortedName className "unique" [field]) =
      if (lettersTold className field).isEmpty then none else some (String.ofList (lettersTold className field)) := by
  have htold : behindMark? uniqueMark (Index.sortedName className "unique" [field]).toList =
      some ((behindMark? uniqueMark (className ++ "_").toList).elim field.toList fun rest =>
        rest ++ (uniqueMark ++ field.toList)) := by
    rw [toList_sortedName, behindMark?_append unbordered_uniqueMark (by decide)]
  show ((behindMark? uniqueMark _).map (List.takeWhile Char.isAlpha)).bind _ = _
  rw [htold]
  rfl

/--
A field that the name of its index tells: it consists of letters, and where the name of its class has a mark already,
they are by chance the letters behind that one.
-/
structure IsLegible (className field : String) : Prop where
  named : field ≠ ""
  letters : ∀ c ∈ field.toList, c.isAlpha
  unmarked : ∀ rest, behindMark? uniqueMark (className ++ "_").toList = some rest →
    (rest ++ uniqueMark).takeWhile Char.isAlpha = field.toList

variable {className field : String}

theorem lettersTold_of_unmarked (h : behindMark? uniqueMark (className ++ "_").toList = none) :
    lettersTold className field = field.toList.takeWhile Char.isAlpha := by
  rw [lettersTold, h]
  rfl

/-- The field's own name is not reached where a mark stands before it. -/
theorem lettersTold_of_marked {rest : List Char}
    (h : behindMark? uniqueMark (className ++ "_").toList = some rest) :
    lettersTold className field = (rest ++ uniqueMark).takeWhile Char.isAlpha := by
  have hstops : ((rest ++ uniqueMark).takeWhile Char.isAlpha).length ≠ (rest ++ uniqueMark).length := by
    intro hall
    have hletters := List.takeWhile_eq_self_iff.mp ((List.takeWhile_prefix Char.isAlpha).eq_of_length hall)
    exact absurd (hletters '_' (List.mem_append_right rest (by decide))) (by decide)
  rw [lettersTold, h, Option.elim_some, ← List.append_assoc, List.takeWhile_append, if_neg hstops]

theorem lettersTold_eq_iff : lettersTold className field = field.toList ↔
    (∀ c ∈ field.toList, c.isAlpha) ∧ ∀ rest, behindMark? uniqueMark (className ++ "_").toList = some rest →
      (rest ++ uniqueMark).takeWhile Char.isAlpha = field.toList := by
  cases h : behindMark? uniqueMark (className ++ "_").toList with
  | none =>
      rw [lettersTold_of_unmarked h, List.takeWhile_eq_self_iff]
      simp
  | some rest =>
      rw [lettersTold_of_marked h]
      constructor
      · intro heq
        refine ⟨fun c hc => List.mem_takeWhile_imp (heq ▸ hc), ?_⟩
        rintro _ ⟨⟩
        exact heq
      · rintro ⟨-, hrest⟩
        exact hrest rest rfl

theorem uniqueField?_eq_some_iff :
    uniqueField? (Index.sortedName className "unique" [field]) = some field ↔ IsLegible className field := by
  have htold : uniqueField? (Index.sortedName className "unique" [field]) = some field ↔
      field ≠ "" ∧ lettersTold className field = field.toList := by
    rw [uniqueField?_sortedName]
    constructor
    · intro h
      split at h
      next => cases h
      next hletters =>
        have hfield := Option.some.inj h
        refine ⟨?_, String.toList_ofList.symm.trans (congrArg String.toList hfield)⟩
        rintro rfl
        exact hletters (List.isEmpty_iff.mpr (String.ofList_eq_empty_iff.mp hfield))
    · rintro ⟨hnamed, heq⟩
      rw [heq, if_neg (by simpa using hnamed), String.ofList_toList]
  rw [htold, lettersTold_eq_iff]
  exact ⟨fun ⟨hnamed, hletters, hunmarked⟩ => ⟨hnamed, hletters, hunmarked⟩,
    fun ⟨hnamed, hletters, hunmarked⟩ => ⟨hnamed, hletters, hunmarked⟩⟩

theorem duplicatedField?_asDuplicate {e : Error} {constraint : String} (hstate : e.hasState .uniqueViolation = true)
    (hconstraint : e.constraint? = some constraint) : e.asDuplicate.duplicatedField? = uniqueField? constraint := by
  rw [Error.asDuplicate, if_pos hstate, hconstraint, Option.bind_some]
  cases uniqueField? constraint <;> rfl

/-- The field is told from the name of its index, and from an error that names it, just if it is legible. -/
theorem duplicatedField?_iff :
    (uniqueField? (Index.sortedName className "unique" [field]) = some field ↔ IsLegible className field) ∧
      ∀ e : Error, e.hasState .uniqueViolation = true →
        e.constraint? = some (Index.sortedName className "unique" [field]) →
          (e.asDuplicate.duplicatedField? = some field ↔ IsLegible className field) := by
  refine ⟨uniqueField?_eq_some_iff, fun e hstate hconstraint => ?_⟩
  rw [duplicatedField?_asDuplicate hstate hconstraint]
  exact uniqueField?_eq_some_iff

/-- A violation of the constraint of a name. -/
def violationOf (constraint : String) : Error :=
  .ofCause (.driver (.server ⟨"23505", "duplicate key value violates unique constraint", some constraint⟩))

theorem duplicatedField?_iff_email :
    (violationOf (Index.sortedName "_User" "unique" ["email"])).hasState .uniqueViolation = true ∧
      (violationOf (Index.sortedName "_User" "unique" ["email"])).asDuplicate.duplicatedField? = some "email" := by
  have hlegible : IsLegible "_User" "email" := ⟨by decide, by simp, by decide⟩
  have hstate : (violationOf (Index.sortedName "_User" "unique" ["email"])).hasState .uniqueViolation = true := rfl
  exact ⟨hstate, (duplicatedField?_iff.2 _ hstate rfl).mpr hlegible⟩

/-- A digit ends what is read of the name: another field is said to have the duplicate value. -/
theorem duplicatedField?_cut :
    uniqueField? (Index.sortedName "Post" "unique" ["address2"]) = some "address" ∧
      (violationOf (Index.sortedName "Post" "unique" ["address2"])).asDuplicate.duplicatedField? = some "address" := by
  have hname : uniqueField? (Index.sortedName "Post" "unique" ["address2"]) = some "address" := by
    rw [uniqueField?_sortedName]
    decide
  exact ⟨hname, (duplicatedField?_asDuplicate rfl rfl).trans hname⟩

end Docstore
