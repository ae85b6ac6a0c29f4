import Docstore.Text.LowerCase

/-!
# Letter case

Lowering a text looks at what is around a letter, but not past a blank: it lowers what is on either side of one on its
own. Letters without marks are lowered to the same, whichever case they are in.
-/

namespace Docstore.Text

/-! ## Blanks -/

theorem nextIsCased_append_blank (cs rest : List Char) : nextIsCased (cs ++ ' ' :: rest) = nextIsCased cs := by
  have hblank : isCaseIgnorable ' ' = false := by decide
  unfold nextIsCased
  induction cs with
  | nil =>
      rw [List.nil_append, List.dropWhile_cons_of_neg (by simp [hblank])]
      exact (by decide : isCased ' ' = false)
  | cons c cs ih =>
      rw [List.cons_append]
      cases hc : isCaseIgnorable c with
      | true => rw [List.dropWhile_cons_of_pos hc, List.dropWhile_cons_of_pos hc, ih]
      | false => rw [List.dropWhile_cons_of_neg (by simp [hc]), List.dropWhile_cons_of_neg (by simp [hc])]

/-- What stands in front of a blank is of no matter behind it. -/
theorem lowerAfter_past_blank (before earlier cs : List Char) :
    lowerAfter (before ++ ' ' :: earlier) cs = lowerAfter before cs := by
  induction cs generalizing before with
  | nil => rfl
  | cons c cs ih =>
      have hrest := ih (c :: before)
      rw [List.cons_append] at hrest
      rw [lowerAfter, lowerAfter, nextIsCased_append_blank, hrest]

theorem lowerAfter_append_blank (before cs rest : List Char) :
    lowerAfter before (cs ++ ' ' :: rest) = lowerAfter before cs ++ ' ' :: lowerAfter [] rest := by
  induction cs generalizing before with
  | nil =>
      have hpast := lowerAfter_past_blank [] before rest
      rw [List.nil_append] at hpast
      rw [List.nil_append, lowerAfter, lowerAfter, hpast]
      rfl
  | cons c cs ih => simp only [List.cons_append, lowerAfter, nextIsCased_append_blank, ih, List.append_assoc]

theorem lowerCase_append_blank (s t : String) : lowerCase (s ++ " " ++ t) = lowerCase s ++ " " ++ lowerCase t := by
  have htext : (s ++ " " ++ t).toList = s.toList ++ ' ' :: t.toList := by simp
  rw [← String.toList_inj, lowerCase, htext, lowerAfter_append_blank]
  simp [lowerCase]

/-! ## Letters without marks -/

section

/-- The characters that differ from their lower case are few. -/
theorem eq_or_lower (P : Char → Prop) [DecidablePred P] (h : ∀ n < 128, P (Char.ofNat n)) (c : Char) :
    P c ∨ c.toLower = c := by
  by_cases hc : c.toNat < 128
  · left
    rw [← Char.ofNat_toNat c]
    exact h _ hc
  · right
    have hlarge : ¬ (c.val ≥ 'A'.val ∧ c.val ≤ 'Z'.val) := fun h => hc (Nat.lt_of_le_of_lt h.2 (by decide))
    exact dif_neg hlarge

variable (c : Char)

theorem lowerChar_toLower : lowerChar c.toLower = lowerChar c :=
  (eq_or_lower (fun c => lowerChar c.toLower = lowerChar c) (by decide) c).elim id fun h => by rw [h]

theorem isCased_toLower : isCased c.toLower = isCased c :=
  (eq_or_lower (fun c => isCased c.toLower = isCased c) (by decide) c).elim id fun h => by rw [h]

theorem isCaseIgnorable_toLower : isCaseIgnorable c.toLower = isCaseIgnorable c :=
  (eq_or_lower (fun c => isCaseIgnorable c.toLower = isCaseIgnorable c) (by decide) c).elim id fun h => by rw [h]

theorem toLower_eq_sigma_iff : c.toLower = 'Σ' ↔ c = 'Σ' :=
  (eq_or_lower (fun c => c.toLower = 'Σ' ↔ c = 'Σ') (by decide) c).elim id fun h => by rw [h]

end

theorem nextIsCased_map (cs : List Char) : nextIsCased (cs.map Char.toLower) = nextIsCased cs := by
  unfold nextIsCased
  induction cs with
  | nil => rfl
  | cons c cs ih =>
      have hc := isCaseIgnorable_toLower c
      rw [List.map_cons]
      cases hignored : isCaseIgnorable c with
      | true => rw [List.dropWhile_cons_of_pos (hc.trans hignored), List.dropWhile_cons_of_pos hignored, ih]
      | false =>
          rw [List.dropWhile_cons_of_neg (by simp [hc, hignored]), List.dropWhile_cons_of_neg (by simp [hignored])]
          exact isCased_toLower c

theorem lowerAfter_map (before cs : List Char) :
    lowerAfter (before.map Char.toLower) (cs.map Char.toLower) = lowerAfter before cs := by
  induction cs generalizing before with
  | nil => rfl
  | cons c cs ih =>
      have hrest := ih (c :: before)
      rw [List.map_cons] at hrest
      simp only [List.map_cons, lowerAfter, hrest, nextIsCased_map, lowerChar_toLower, toLower_eq_sigma_iff]

/-- Texts that differ in the case of letters without marks alone have the same lower case. -/
theorem lowerCase_congr {s t : String} (h : s.toList.map Char.toLower = t.toList.map Char.toLower) :
    lowerCase s = lowerCase t := by
  have hmap (u : String) : lowerCase u = String.ofList (lowerAfter [] (u.toList.map Char.toLower)) := by
    rw [lowerCase, ← lowerAfter_map, List.map_nil]
  rw [hmap, hmap, h]

end Docstore.Text
