import Docstore.Query.Pattern
import Mathlib.Data.List.Basic

/-!
# Quoted parts of patterns

What stands between `\Q` and `\E` is written so that it means itself. Main statement: this comes out exactly where
nothing follows the quoted part, or nothing but the anchor `$` in a pattern without the anchor `^`
(`quote_expands_iff`).
-/

namespace Docstore.Query.Pattern

/-! ## Characters that mean themselves -/

/-- A text in which all but digits, blanks and letters stand behind a backslash. -/
inductive Escapes : List Char → List Char → Prop
  | nil : Escapes [] []
  | plain {c : Char} {s e : List Char} (hc : c.isDigit = true ∨ c = ' ' ∨ Text.isAlphabetic c = true)
      (h : Escapes s e) : Escapes (c :: s) (c :: e)
  | escaped {c : Char} {s e : List Char} (hc : ¬ (c.isDigit = true ∨ c = ' ' ∨ Text.isAlphabetic c = true))
      (h : Escapes s e) : Escapes (c :: s) ('\\' :: c :: e)

theorem escape_append (s t : List Char) : escape (s ++ t) = escape s ++ escape t := List.flatMap_append

theorem escape_cons (c : Char) (s : List Char) : escape (c :: s) =
    (if c.isDigit = true ∨ c = ' ' ∨ Text.isAlphabetic c = true then [c] else ['\\', c]) ++ escape s := by
  have hflag : (c.isDigit || c = ' ' || Text.isAlphabetic c) = true ↔
      (c.isDigit = true ∨ c = ' ' ∨ Text.isAlphabetic c = true) := by
    simp only [Bool.or_eq_true, decide_eq_true_eq, or_assoc]
  rw [escape, List.flatMap_cons, if_congr hflag rfl rfl]
  rfl

theorem escapes_escape (s : List Char) : Escapes s (escape s) := by
  induction s with
  | nil => exact .nil
  | cons c s ih =>
      rw [escape_cons]
      split
      · exact .plain ‹_› ih
      · exact .escaped ‹_› ih

theorem Escapes.eq_escape {s e : List Char} (h : Escapes s e) : e = escape s := by
  induction h with
  | nil => rfl
  | plain hc _ ih => rw [escape_cons, if_pos hc, ih]; rfl
  | escaped hc _ ih => rw [escape_cons, if_neg hc, ih]; rfl

theorem length_le_escape (s : List Char) : s.length ≤ (escape s).length := by
  induction s with
  | nil => exact Nat.zero_le _
  | cons c s ih =>
      rw [escape_cons, List.length_append]
      split <;> simp only [List.length_cons, List.length_nil] <;> omega

/-! ## Where a word stands -/

theorem cutAt?_append {c : Char} {word before : List Char} (h : c ∉ before) (after : List Char) :
    cutAt? (c :: word) (before ++ (c :: word ++ after)) = some (before, after) := by
  induction before with
  | nil =>
      have hpart : (c :: word).isPrefixOf (c :: word ++ after) = true :=
        List.isPrefixOf_iff_prefix.mpr (List.prefix_append _ _)
      rw [List.nil_append, List.cons_append, cutAt?, ← List.cons_append, if_pos hpart, List.drop_left]
  | cons d before ih =>
      obtain ⟨hd, hbefore⟩ := List.ne_and_not_mem_of_not_mem_cons h
      have hpart : ¬ (c :: word).isPrefixOf (d :: (before ++ (c :: word ++ after))) = true := by
        rw [List.isPrefixOf_cons_cons, beq_false_of_ne hd, Bool.false_and]
        exact Bool.false_ne_true
      rw [List.cons_append, cutAt?, if_neg hpart, ih hbefore]
      rfl

theorem dropClose_of_not_mem {cs : List Char} (h : '\\' ∉ cs) (b : Bool) : dropClose b cs = cs := by
  induction cs generalizing b with
  | nil => rfl
  | cons c cs ih =>
      obtain ⟨hc, hcs⟩ := List.ne_and_not_mem_of_not_mem_cons h
      cases cs with
      | nil => rfl
      | cons d cs => simp [dropClose, Ne.symm hc, ih hcs]

theorem unquoted_of_not_mem {cs : List Char} (h : '\\' ∉ cs) : unquoted cs = cs := by
  have hstart : dropStart closeQuote cs = cs := by
    refine if_neg fun hpart => h ?_
    exact (List.isPrefixOf_iff_prefix.mp hpart).subset (.head _)
  rw [unquoted, hstart, dropClose_of_not_mem h]

/-! ## What follows a quoted part -/

/-- A closing quote closes only at the end. -/
theorem dropEnd_closeQuote {t : List Char} (ht : '\\' ∉ t) (s : List Char) :
    dropEnd closeQuote (s ++ (closeQuote ++ t)) = if t = [] then s else s ++ (closeQuote ++ t) := by
  rcases List.eq_nil_or_concat' t with rfl | ⟨t, c, rfl⟩
  · have hsuffix : closeQuote.isSuffixOf (s ++ closeQuote) = true :=
      List.isSuffixOf_iff_suffix.mpr (List.suffix_append _ _)
    rw [dropEnd, List.append_nil, if_pos hsuffix, if_pos rfl, List.length_append, Nat.add_sub_cancel, List.take_left]
  · rw [if_neg (by simp)]
    refine if_neg fun hsuffix => ?_
    obtain ⟨before, hbefore⟩ := List.isSuffixOf_iff_suffix.mp hsuffix
    -- The character in front of the last one would be the backslash.
    have hsplit : before ++ ['\\'] ++ ['E'] = s ++ (closeQuote ++ t) ++ [c] := by simpa [closeQuote] using hbefore
    have hlast : (s ++ (closeQuote ++ t)).getLast? = some '\\' := by
      rw [← (List.append_inj' hsplit rfl).1, List.getLast?_concat]
    rcases List.eq_nil_or_concat' t with rfl | ⟨t, d, rfl⟩
    · simp [closeQuote] at hlast
    · rw [← List.append_assoc closeQuote, ← List.append_assoc, List.getLast?_concat, Option.some_inj] at hlast
      exact ht (by simp [hlast])

theorem literalize_quote {r : List Char} (hr : '\\' ∉ r) (q : List Char) :
    literalize (r ++ (openQuote ++ q)) = r ++ escape (dropEnd closeQuote q) := by
  have hcut : cutAt? openQuote (r ++ (openQuote ++ q)) = some (r, q) := cutAt?_append hr q
  rw [literalize, hcut]
  simp only [unquoted_of_not_mem hr]

/-- What follows the closing quote is taken for part of what is quoted, and the closing quote with it. -/
theorem literalize_quoted {r t : List Char} (hr : '\\' ∉ r) (ht : '\\' ∉ t) (s : List Char) :
    literalize (r ++ (openQuote ++ (s ++ (closeQuote ++ t)))) =
      r ++ if t = [] then escape s else escape s ++ ('\\' :: '\\' :: 'E' :: escape t) := by
  have hclose : escape closeQuote = ['\\', '\\', 'E'] := by decide
  rw [literalize_quote hr, dropEnd_closeQuote ht]
  split
  · rfl
  · rw [escape_append, escape_append, hclose]
    rfl

theorem literalize_quoted_eq_iff {r t : List Char} (hr : '\\' ∉ r) (ht : '\\' ∉ t) (s : List Char) :
    literalize (r ++ (openQuote ++ (s ++ (closeQuote ++ t)))) = r ++ (escape s ++ t) ↔ t = [] := by
  rw [literalize_quoted hr ht, List.append_cancel_left_eq]
  split
  next hnil => simp [hnil]
  next hne =>
    refine iff_of_false (fun heq => ?_) hne
    rw [List.append_cancel_left_eq] at heq
    have hlength := congrArg List.length heq
    have hle := length_le_escape t
    simp only [List.length_cons] at hlength
    omega

/-! ## Anchors -/

theorem expand_of_start (cs : List Char) : expand ('^' :: cs) = '^' :: literalize cs := rfl

theorem expand_of_end {cs : List Char} (h : (cs ++ ['$']).head? ≠ some '^') :
    expand (cs ++ ['$']) = literalize cs ++ ['$'] := by
  have hsuffix : ['$'].isSuffixOf (cs ++ ['$']) = true := by simp [List.isSuffixOf_iff_suffix]
  unfold expand
  split
  next rest heq => simp [heq] at h
  next => rw [if_pos hsuffix, List.dropLast_concat]

theorem expand_of_plain {cs : List Char} (hstart : cs.head? ≠ some '^') (hend : cs.getLast? ≠ some '$') :
    expand cs = literalize cs := by
  unfold expand
  split
  next rest => exact absurd rfl hstart
  next =>
    refine if_neg fun hsuffix => hend ?_
    obtain ⟨before, rfl⟩ := List.isSuffixOf_iff_suffix.mp hsuffix
    exact List.getLast?_concat

/-- A pattern with a quoted part. -/
def around (r s t : List Char) : List Char := r ++ (openQuote ++ (s ++ (closeQuote ++ t)))

theorem head?_around {r : List Char} (h : r.head? ≠ some '^') (s t : List Char) :
    (around r s t).head? ≠ some '^' := by
  cases r with
  | nil => simp [around, openQuote]
  | cons c r => simpa [around] using h

theorem getLast?_around {t : List Char} (h : t.getLast? ≠ some '$') (s r : List Char) :
    (around r s t).getLast? ≠ some '$' := by
  rcases List.eq_nil_or_concat' t with rfl | ⟨t, c, rfl⟩
  · simp [around, closeQuote]
  · simpa [around, ← List.append_assoc, List.getLast?_concat] using h

theorem expand_around_iff {r t : List Char} (hr : '\\' ∉ r) (ht : '\\' ∉ t) (s : List Char) :
    expand (around r s t) = r ++ (escape s ++ t) ↔ t = [] ∨ t = ['$'] ∧ r.head? ≠ some '^' := by
  by_cases hstart : r.head? = some '^'
  · obtain ⟨r, rfl⟩ := List.head?_eq_some_iff.mp hstart
    have hr' : '\\' ∉ r := fun h => hr (.tail _ h)
    have hexpand : expand (around ('^' :: r) s t) = '^' :: literalize (around r s t) := rfl
    rw [hexpand, List.cons_append, List.cons_inj_right, around, literalize_quoted_eq_iff hr' ht]
    simp
  · have hhead := head?_around hstart s t
    by_cases hend : t.getLast? = some '$'
    · obtain ⟨t, rfl⟩ := List.getLast?_eq_some_iff.mp hend
      have hsplit : around r s (t ++ ['$']) = around r s t ++ ['$'] := by simp [around]
      have ht' : '\\' ∉ t := fun h => ht (List.mem_append_left _ h)
      rw [hsplit] at hhead ⊢
      rw [expand_of_end hhead, ← List.append_assoc (escape s), ← List.append_assoc r, List.append_cancel_right_eq,
        around, literalize_quoted_eq_iff hr ht']
      simp [hstart]
    · have hne : t ≠ ['$'] := by
        rintro rfl
        exact hend rfl
      rw [expand_of_plain hhead (getLast?_around hend s r), around, literalize_quoted_eq_iff hr ht]
      simp [hne]

/-- A quoted part stands for itself, and what is around it stays, exactly if it ends the pattern or only the anchor `$`
follows and the anchor `^` does not stand in front. -/
theorem quote_expands_iff {r t : String} (hr : '\\' ∉ r.toList) (ht : '\\' ∉ t.toList) (s : String) :
    (∃ e : String, Escapes s.toList e.toList) ∧ ∀ e : String, Escapes s.toList e.toList →
      (process (r ++ "\\Q" ++ s ++ "\\E" ++ t) = r ++ e ++ t ↔
        t = "" ∨ t = "$" ∧ r.toList.head? ≠ some '^') := by
  constructor
  · refine ⟨String.ofList (escape s.toList), ?_⟩
    rw [String.toList_ofList]
    exact escapes_escape s.toList
  · intro e he
    have htext : (r ++ "\\Q" ++ s ++ "\\E" ++ t).toList = around r.toList s.toList t.toList := by
      simp [around, openQuote, closeQuote]
    have hempty : t = "" ↔ t.toList = [] := by rw [← String.toList_inj]; rfl
    have hanchor : t = "$" ↔ t.toList = ['$'] := by rw [← String.toList_inj]; rfl
    rw [process, htext, ← String.toList_inj, String.toList_ofList, String.toList_append, String.toList_append,
      List.append_assoc, he.eq_escape, expand_around_iff hr ht, hempty, hanchor]

theorem quote_expands_iff_dotted :
    process ("^" ++ "\\Q" ++ "a.b" ++ "\\E" ++ "") = "^" ++ "a\\.b" ++ "" ∧
      process ("" ++ "\\Q" ++ "a.b" ++ "\\E" ++ "$") = "" ++ "a\\.b" ++ "$" := by
  have hescapes : Escapes "a.b".toList "a\\.b".toList :=
    .plain (by decide) (.escaped (by decide) (.plain (by decide) .nil))
  exact ⟨((quote_expands_iff (by decide) (by decide) "a.b").2 _ hescapes).mpr (.inl rfl),
    ((quote_expands_iff (by decide) (by decide) "a.b").2 _ hescapes).mpr (.inr ⟨rfl, by decide⟩)⟩

/-- Between both anchors, and in front of other text, the closing quote is taken literally and what follows it too. -/
theorem quote_not_expanded :
    Escapes "a".toList "a".toList ∧ ¬ closeQuote <:+: "a".toList ∧
      process ("^" ++ "\\Q" ++ "a" ++ "\\E" ++ "$") = "^a\\\\E\\$" ∧
      process ("^" ++ "\\Q" ++ "a" ++ "\\E" ++ "$") ≠ "^" ++ "a" ++ "$" ∧
      process ("" ++ "\\Q" ++ "a" ++ "\\E" ++ "b") = "a\\\\Eb" ∧
      process ("" ++ "\\Q" ++ "a" ++ "\\E" ++ "b") ≠ "" ++ "a" ++ "b" :=
  ⟨.plain (by decide) .nil, by decide, by decide, by decide, by decide, by decide⟩

end Docstore.Query.Pattern
