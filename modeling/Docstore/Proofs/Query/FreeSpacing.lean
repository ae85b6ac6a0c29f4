import Docstore.Query.Pattern
import Mathlib.Data.List.Basic

/-!
# Free spacing

A pattern is read as pairs of a backslash and a character, blanks, comments and other characters. Main statement: the
blanks and the comments are taken away and nothing else, unless the last thing that stays is a pair with a blank, of
which the backslash stays alone; a second time nothing is taken away (`free_spacing_exact_iff`).
-/

namespace Docstore.Query.Pattern

/-- What a pattern is made of. -/
inductive Piece
  /-- A backslash and the character behind it. -/
  | pair (c : Char)
  | blank (c : Char)
  /-- What stands behind `#` on its line, and whether the line ends. -/
  | comment (body : List Char) (ended : Bool)
  | other (c : Char)
deriving DecidableEq

namespace Piece

def chars : Piece → List Char
  | pair c => ['\\', c]
  | blank c => [c]
  | comment body ended => '#' :: (body ++ if ended then ['\n'] else [])
  | other c => [c]

/-- Whether a piece can stand in front of a rest: a backslash without a character behind it, and a comment whose line
does not end, stand in front of nothing. -/
def Fits (rest : List Char) : Piece → Prop
  | pair _ => True
  | blank c => Text.isBlank c = true
  | comment body ended => '\n' ∉ body ∧ (ended = false → rest = [])
  | other c => Text.isBlank c = false ∧ c ≠ '#' ∧ (c = '\\' → rest = [])

def isKept : Piece → Bool
  | pair _ | other _ => true
  | blank _ | comment _ _ => false

theorem chars_ne_nil (p : Piece) : p.chars ≠ [] := by cases p <;> simp [chars]

theorem Fits.of_ne_nil {p : Piece} {rest rest' : List Char} (h : p.Fits rest) (hrest : rest ≠ []) :
    p.Fits rest' := by
  cases p with
  | pair | blank => exact h
  | comment => exact ⟨h.1, fun hended => absurd (h.2 hended) hrest⟩
  | other => exact ⟨h.1, h.2.1, fun hc => absurd (h.2.2 hc) hrest⟩

end Piece

open Piece (chars isKept)

/-- A pattern read piece by piece. -/
inductive Reads : List Piece → List Char → Prop
  | nil : Reads [] []
  | cons {p : Piece} {ps : List Piece} {rest : List Char} (hp : p.Fits rest) (h : Reads ps rest) :
      Reads (p :: ps) (p.chars ++ rest)

/-- The pieces that mean something. -/
def kept (ps : List Piece) : List Piece := ps.filter isKept

def written (ps : List Piece) : List Char := ps.flatMap chars

section

variable {c : Char} {rest : List Char}

theorem isBlank_backslash : Text.isBlank '\\' = false := by decide +kernel

theorem isBlank_hash : Text.isBlank '#' = false := by decide +kernel

/-! ## Every pattern can be read -/

theorem exists_comment (rest : List Char) :
    ∃ (p : Piece) (rest' : List Char), '#' :: rest = p.chars ++ rest' ∧ p.Fits rest' := by
  by_cases hline : '\n' ∈ rest
  · obtain ⟨body, rest', rfl, hbody⟩ := List.eq_append_cons_of_mem hline
    exact ⟨.comment body true, rest', by simp [chars], hbody, nofun⟩
  · exact ⟨.comment rest false, [], by simp [chars], hline, fun _ => rfl⟩

theorem exists_piece (c : Char) (rest : List Char) :
    ∃ (p : Piece) (rest' : List Char), c :: rest = p.chars ++ rest' ∧ p.Fits rest' := by
  by_cases hhash : c = '#'
  · subst hhash
    exact exists_comment rest
  by_cases hblank : Text.isBlank c = true
  · exact ⟨.blank c, rest, rfl, hblank⟩
  rw [Bool.not_eq_true] at hblank
  by_cases hpair : c = '\\' ∧ rest ≠ []
  · obtain ⟨rfl, hrest⟩ := hpair
    obtain ⟨d, rest, rfl⟩ := List.exists_cons_of_ne_nil hrest
    exact ⟨.pair d, rest, rfl, trivial⟩
  · exact ⟨.other c, rest, rfl, hblank, hhash, fun hc => not_not.mp fun hrest => hpair ⟨hc, hrest⟩⟩

theorem exists_reads (cs : List Char) : ∃ ps, Reads ps cs := by
  match cs with
  | [] => exact ⟨[], .nil⟩
  | c :: rest =>
      obtain ⟨p, rest', heq, hp⟩ := exists_piece c rest
      have hlt : rest'.length < (c :: rest).length := by
        have hpos := List.length_pos_iff.mpr p.chars_ne_nil
        rw [heq, List.length_append]
        omega
      obtain ⟨ps, h⟩ := exists_reads rest'
      exact ⟨p :: ps, heq ▸ .cons hp h⟩
termination_by cs.length
decreasing_by exact hlt

/-! ## What is taken away -/

theorem strip_pair (c : Char) (rest : List Char) : strip ('\\' :: c :: rest) = '\\' :: c :: strip rest := by rw [strip]

theorem strip_of_ne (h : c = '\\' → rest = []) : strip (c :: rest) =
    if c = '#' then strip.skipComment rest else if Text.isBlank c = true then strip rest else c :: strip rest := by
  by_cases hc : c = '\\'
  · obtain rfl := h hc
    subst hc
    rw [if_neg (by decide), if_neg (by simp [isBlank_backslash])]
    rfl
  · rw [strip]
    · exact fun heq _ => hc heq
    · exact fun _ _ heq _ => hc heq

theorem skipComment_append {body : List Char} (h : '\n' ∉ body) (rest : List Char) :
    strip.skipComment (body ++ rest) = strip.skipComment rest := by
  induction body with
  | nil => rfl
  | cons c body ih =>
      obtain ⟨hc, hbody⟩ := List.ne_and_not_mem_of_not_mem_cons h
      rw [List.cons_append, strip.skipComment, if_neg (Ne.symm hc), ih hbody]

theorem strip_piece {p : Piece} (h : p.Fits rest) :
    strip (p.chars ++ rest) = (if p.isKept then p.chars else []) ++ strip rest := by
  cases p with
  | pair c => exact strip_pair c rest
  | blank c =>
      have hhash : c ≠ '#' := by
        rintro rfl
        exact Bool.false_ne_true (isBlank_hash.symm.trans h)
      have hpair : c ≠ '\\' := by
        rintro rfl
        exact Bool.false_ne_true (isBlank_backslash.symm.trans h)
      exact (strip_of_ne fun hc => absurd hc hpair).trans ((if_neg hhash).trans (if_pos h))
  | comment body ended =>
      obtain ⟨hbody, hended⟩ := h
      have hstart : strip (chars (.comment body ended) ++ rest) =
          strip.skipComment (body ++ ((if ended then ['\n'] else []) ++ rest)) := by
        rw [← List.append_assoc]
        exact strip_of_ne fun heq => absurd heq (by decide)
      rw [hstart, skipComment_append hbody]
      cases ended with
      | true => rfl
      | false => rw [hended rfl]; rfl
  | other c =>
      obtain ⟨hblank, hhash, hpair⟩ := h
      exact (strip_of_ne hpair).trans ((if_neg hhash).trans (if_neg (by simp [hblank])))

end

section

variable {ps : List Piece} {cs : List Char}

theorem Reads.strip_eq (h : Reads ps cs) : strip cs = written (kept ps) := by
  induction h with
  | nil => rfl
  | @cons p ps rest hp _ ih =>
      rw [strip_piece hp, ih, kept, kept, List.filter_cons]
      cases p.isKept <;> rfl

theorem Reads.written_eq (h : Reads ps cs) : written ps = cs := by
  induction h with
  | nil => rfl
  | cons _ _ ih => rw [written, List.flatMap_cons, ← written, ih]

theorem Reads.ne_nil (h : Reads ps cs) (hps : ps ≠ []) : cs ≠ [] := by
  cases h with
  | nil => exact absurd rfl hps
  | @cons p => simp [p.chars_ne_nil]

theorem Reads.isBlank_other (h : Reads ps cs) {c : Char} (hc : .other c ∈ ps) : Text.isBlank c = false := by
  induction h with
  | nil => cases hc
  | cons hp _ ih =>
      rcases List.mem_cons.mp hc with rfl | hc
      · exact hp.1
      · exact ih hc

theorem isKept_of_mem {p : Piece} (h : p ∈ Pattern.kept ps) : p.isKept = true := (List.mem_filter.mp h).2

theorem kept_eq_self (h : ∀ p ∈ ps, p.isKept = true) : Pattern.kept ps = ps := List.filter_eq_self.mpr h

/-- What is kept reads as it did. -/
theorem Reads.kept (h : Reads ps cs) : Reads (kept ps) (written (kept ps)) := by
  induction h with
  | nil => exact .nil
  | @cons p ps rest hp h ih =>
      cases hkept : p.isKept with
      | false => rwa [Pattern.kept, List.filter_cons_of_neg (by simp [hkept])]
      | true =>
          rw [Pattern.kept, List.filter_cons_of_pos hkept]
          refine .cons ?_ ih
          cases hrest : rest with
          | nil =>
              subst hrest
              have hps : ps = [] := not_not.mp fun hne => h.ne_nil hne rfl
              subst hps
              exact hp
          | cons => exact hp.of_ne_nil (by simp [hrest])

theorem Reads.strip_of_kept (h : Reads ps cs) (hps : Pattern.kept ps = ps) : strip cs = cs := by
  rw [h.strip_eq, hps, h.written_eq]

/-- Without its last character, a pattern that ends with a pair ends with a backslash. -/
theorem Reads.cut {c : Char} (h : Reads (ps ++ [.pair c]) cs) :
    Reads (ps ++ [.other '\\']) (written (ps ++ [.other '\\'])) := by
  induction ps generalizing cs with
  | nil => exact .cons ⟨isBlank_backslash, by decide, fun _ => rfl⟩ .nil
  | cons p ps ih =>
      rw [List.cons_append] at h
      cases h with
      | @cons _ _ rest hp h => exact .cons (hp.of_ne_nil (h.ne_nil (by simp))) (ih h)

/-! ## What is trimmed -/

theorem head?_written_kept (h : Reads ps cs) {c : Char} (hc : (written (Pattern.kept ps)).head? = some c) :
    Text.isBlank c = false := by
  cases hkept : Pattern.kept ps with
  | nil => rw [hkept] at hc; cases hc
  | cons p qs =>
      have hmem : p ∈ Pattern.kept ps := hkept ▸ .head _
      rw [hkept] at hc
      obtain ⟨hmem, hp⟩ := List.mem_filter.mp hmem
      cases p with
      | blank | comment => cases hp
      | pair d =>
          cases hc
          exact isBlank_backslash
      | other d =>
          cases hc
          exact h.isBlank_other hmem

theorem trim_of_start (h : ∀ c, cs.head? = some c → Text.isBlank c = false) :
    trim cs = (cs.reverse.dropWhile Text.isBlank).reverse := by
  rw [trim]
  cases cs with
  | nil => rfl
  | cons c cs => rw [List.dropWhile_cons_of_neg (by simp [h c rfl])]

theorem trim_of_ends (hstart : ∀ c, cs.head? = some c → Text.isBlank c = false)
    (hend : ∀ c, cs.getLast? = some c → Text.isBlank c = false) : trim cs = cs := by
  rw [trim_of_start hstart]
  rcases List.eq_nil_or_concat' cs with rfl | ⟨cs, c, rfl⟩
  · rfl
  · have hc := hend c List.getLast?_concat
    rw [List.reverse_concat, List.dropWhile_cons_of_neg (by simp [hc]), ← List.reverse_concat, List.reverse_reverse]

theorem written_concat (qs : List Piece) (p : Piece) : written (qs ++ [p]) = written qs ++ p.chars := by
  simp [written]

/-- Nothing is trimmed but the blank of a pair at the end. -/
theorem trim_written_kept (h : Reads ps cs)
    (hlast : ∀ c, (Pattern.kept ps).getLast? = some (.pair c) → Text.isBlank c = false) :
    trim (written (Pattern.kept ps)) = written (Pattern.kept ps) := by
  refine trim_of_ends (fun c => head?_written_kept h) fun c hc => ?_
  rcases List.eq_nil_or_concat' (Pattern.kept ps) with hnil | ⟨qs, p, hconcat⟩
  · rw [hnil] at hc
    cases hc
  · have hmem : p ∈ Pattern.kept ps := by simp [hconcat]
    rw [hconcat, written_concat] at hc
    rw [hconcat, List.getLast?_concat] at hlast
    obtain ⟨hmem, hp⟩ := List.mem_filter.mp hmem
    cases p with
    | blank | comment => cases hp
    | pair d =>
        have hd : d = c := by simpa [chars] using hc
        exact hd ▸ hlast d rfl
    | other d =>
        have hd : d = c := by simpa [chars] using hc
        exact hd ▸ h.isBlank_other hmem

theorem trim_written_pair {qs : List Piece} {c : Char} (h : Reads ps cs) (hkept : Pattern.kept ps = qs ++ [.pair c])
    (hc : Text.isBlank c = true) : trim (written (Pattern.kept ps)) = written (qs ++ [.other '\\']) := by
  have hwritten : written (Pattern.kept ps) = written qs ++ ['\\'] ++ [c] := by
    rw [hkept, written_concat]
    simp [chars]
  rw [trim_of_start fun _ => head?_written_kept h, hwritten, List.reverse_concat, List.dropWhile_cons_of_pos hc,
    List.reverse_concat, List.dropWhile_cons_of_neg (by simp [isBlank_backslash]), ← List.reverse_concat,
    List.reverse_reverse, written_concat]
  rfl

theorem trim_strip_eq_iff (h : Reads ps cs) :
    trim (strip cs) = written (Pattern.kept ps) ↔
      ∀ c, (Pattern.kept ps).getLast? = some (.pair c) → Text.isBlank c = false := by
  rw [h.strip_eq]
  constructor
  · intro htrim c hlast
    obtain ⟨qs, hkept⟩ := List.getLast?_eq_some_iff.mp hlast
    by_contra hc
    rw [trim_written_pair h hkept (by simpa using hc), hkept, written_concat, written_concat,
      List.append_cancel_left_eq] at htrim
    cases htrim
  · exact trim_written_kept h

theorem trim_strip_trim_strip (cs : List Char) : trim (strip (trim (strip cs))) = trim (strip cs) := by
  obtain ⟨ps, h⟩ := exists_reads cs
  have hkept : Pattern.kept (Pattern.kept ps) = Pattern.kept ps := kept_eq_self fun _ => isKept_of_mem
  by_cases hlast : ∀ c, (Pattern.kept ps).getLast? = some (.pair c) → Text.isBlank c = false
  · have htrim := trim_written_kept h hlast
    rw [h.strip_eq, htrim, h.kept.strip_of_kept hkept, htrim]
  · obtain ⟨c, hc⟩ := not_forall.mp hlast
    obtain ⟨hpair, hblank⟩ := Classical.not_imp.mp hc
    obtain ⟨qs, hqs⟩ := List.getLast?_eq_some_iff.mp hpair
    have hcut := (hqs ▸ h.kept).cut
    have hkept' : Pattern.kept (qs ++ [.other '\\']) = qs ++ [.other '\\'] := by
      refine kept_eq_self fun p hp => ?_
      rcases List.mem_append.mp hp with hp | hp
      · exact isKept_of_mem (hqs ▸ List.mem_append_left _ hp)
      · exact List.mem_singleton.mp hp ▸ rfl
    have htrim := trim_written_kept hcut (by rw [hkept', List.getLast?_concat]; nofun)
    rw [hkept'] at htrim
    rw [h.strip_eq, trim_written_pair h hqs (by simpa using hblank), hcut.strip_of_kept hkept', htrim]

end

/-- Of a pattern that is read piece by piece, the blanks and the comments are taken away and nothing else, exactly if
the last piece that stays is no pair with a blank, of which the blank is taken away too. A second time nothing is. -/
theorem free_spacing_exact_iff (pattern : String) :
    (∃ ps, Reads ps pattern.toList) ∧
      (∀ ps, Reads ps pattern.toList →
        (removeWhiteSpace pattern = String.ofList (written (kept ps)) ↔
          ∀ c, (kept ps).getLast? = some (.pair c) → Text.isBlank c = false) ∧
        (∀ qs c, kept ps = qs ++ [.pair c] → Text.isBlank c = true →
          removeWhiteSpace pattern = String.ofList (written qs ++ ['\\']))) ∧
      removeWhiteSpace (removeWhiteSpace pattern) = removeWhiteSpace pattern := by
  refine ⟨exists_reads _, fun ps h => ⟨?_, fun qs c hkept hc => ?_⟩, ?_⟩
  · rw [removeWhiteSpace, String.ofList_inj]
    exact trim_strip_eq_iff h
  · rw [removeWhiteSpace, h.strip_eq, trim_written_pair h hkept hc, written_concat]
    rfl
  · rw [removeWhiteSpace, removeWhiteSpace, String.toList_ofList, trim_strip_trim_strip]

/-- A blank in front, a pair with a blank in the middle and a comment at the end. -/
theorem free_spacing_exact_iff_comment : removeWhiteSpace " \\ b# c" = "\\ b" := by
  have hblank : Text.isBlank ' ' = true := by decide +kernel
  have hletter : Text.isBlank 'b' = false := by decide +kernel
  have hreads : Reads [.blank ' ', .pair ' ', .other 'b', .comment [' ', 'c'] false]
      [' ', '\\', ' ', 'b', '#', ' ', 'c'] :=
    .cons (p := .blank ' ') hblank <| .cons (p := .pair ' ') trivial <|
      .cons (p := .other 'b') ⟨hletter, by decide, fun h => absurd h (by decide)⟩ <|
        .cons (p := .comment [' ', 'c'] false) ⟨by decide, fun _ => rfl⟩ .nil
  obtain ⟨-, hexact, -⟩ := free_spacing_exact_iff " \\ b# c"
  exact (hexact _ hreads).1.mpr fun c hc => nomatch hc

/-- The blank of a pair is lost at the end of a pattern. -/
theorem free_spacing_loses_blank :
    Reads [.other 'a', .pair ' '] "a\\ ".toList ∧ String.ofList (written (kept [.other 'a', .pair ' '])) = "a\\ " ∧
      removeWhiteSpace "a\\ " = "a\\" ∧ removeWhiteSpace "a\\ " ≠ "a\\ " := by
  have hletter : Text.isBlank 'a' = false := by decide +kernel
  have hreads : Reads [.other 'a', .pair ' '] ['a', '\\', ' '] :=
    .cons (p := .other 'a') ⟨hletter, by decide, fun h => absurd h (by decide)⟩ <|
      .cons (p := .pair ' ') trivial .nil
  exact ⟨hreads, rfl, by decide +kernel, by decide +kernel⟩

end Docstore.Query.Pattern
