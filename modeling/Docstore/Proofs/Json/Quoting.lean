import Docstore.Json.Printer
import Docstore.Proofs.Json.Skipping
import Mathlib.Tactic.SplitIfs

/-!
# Quoted strings

A string is read back from its quoted text, whatever characters it has and whatever follows it
(`stringBody_escaped`), and so is an object whose members are strings (`parseKnown?_ofStrings`).
-/

namespace Docstore

namespace Json

/-! ## Characters -/

theorem hex4?_control {n : Nat} (h : n < 0x20) :
    hex4? '0' '0' (Text.hexDigit (n / 16)) (Text.hexDigit (n % 16)) = some n := by
  decide +revert

theorem stringBody_short {e c : Char} (h : shortEscape? e = some c) (rest : List Char) :
    stringBody ('\\' :: e :: rest) = consChar c (stringBody rest) := by
  have hu : e ≠ 'u' := by
    rintro rfl
    cases h
  rw [stringBody]
  · simp [h]
  · simp_all

theorem stringBody_control {c : Char} (h : c.toNat < 0x20) (rest : List Char) :
    stringBody ('\\' :: 'u' :: '0' :: '0' :: Text.hexDigit (c.toNat / 16) :: Text.hexDigit (c.toNat % 16) :: rest) =
      consChar c (stringBody rest) := by
  have hlow : ¬ (0xdc00 ≤ c.toNat ∧ c.toNat < 0xe000) := by omega
  have hhigh : ¬ (0xd800 ≤ c.toNat ∧ c.toNat < 0xdc00) := by omega
  rw [stringBody, hex4?_control h]
  simp only [hlow, hhigh, if_false, Char.ofNat_toNat]

theorem stringBody_plain {c : Char} (hcontrol : ¬ c.toNat < 0x20) (hquote : c ≠ '"') (hslash : c ≠ '\\')
    (rest : List Char) : stringBody (c :: rest) = consChar c (stringBody rest) := by
  rw [stringBody]
  · simp [hcontrol, hslash]
  all_goals simp_all

/-- What stands for a character is read as that character. -/
theorem stringBody_escapeChar (c : Char) (rest : List Char) :
    stringBody (escapeChar c ++ rest) = consChar c (stringBody rest) := by
  rw [escapeChar]
  split_ifs with hquote hslash hn hr ht hb hf hcontrol
  · subst hquote; exact stringBody_short rfl rest
  · subst hslash; exact stringBody_short rfl rest
  · subst hn; exact stringBody_short rfl rest
  · subst hr; exact stringBody_short rfl rest
  · subst ht; exact stringBody_short rfl rest
  · subst hb; exact stringBody_short rfl rest
  · subst hf; exact stringBody_short rfl rest
  · exact stringBody_control hcontrol rest
  · exact stringBody_plain hcontrol hquote hslash rest

/-! ## Strings -/

theorem stringBody_escaped (cs rest : List Char) :
    stringBody (cs.flatMap escapeChar ++ '"' :: rest) = some (cs, rest) := by
  induction cs with
  | nil => rfl
  | cons c cs ih => rw [List.flatMap_cons, List.append_assoc, stringBody_escapeChar, ih, consChar]

theorem toList_quote (s : String) : (quote s).toList = '"' :: (s.toList.flatMap escapeChar ++ ['"']) :=
  String.toList_ofList

/-- A quoted string is read as a value, if one step is left for it. -/
theorem value?_quote (fuel depth : Nat) (s : String) (rest : List Char) :
    value? (fuel + 1) depth ((quote s).toList ++ rest) = some (.string s, rest) := by
  rw [toList_quote, List.cons_append, List.append_assoc, value?]
  simp [skipSpace, isSpace, stringBody_escaped]

/-! ## Objects of strings -/

/-- An object whose values are strings. -/
def ofStrings (members : List (String × String)) : Document := members.map fun (k, v) => (k, .string v)

/-- A member as it is written. -/
def memberChars (member : String × String) : List Char :=
  (quote member.1).toList ++ ':' :: (quote member.2).toList

def membersChars (members : List (String × String)) : List Char := [','].intercalate (members.map memberChars)

theorem toList_print_ofStrings (members : List (String × String)) :
    (print (.object (ofStrings members))).toList = '\x7b' :: (membersChars members ++ ['\x7d']) := by
  have hmembers : (printFields (ofStrings members)).map String.toList = members.map memberChars := by
    induction members with
    | nil => rfl
    | cons member rest ih =>
        rw [List.map_cons, ← ih]
        simp [ofStrings, printFields, print, memberChars]
  simp [print, String.toList_intercalate, hmembers, membersChars]

theorem skipSpace_cons {c : Char} (h : isSpace c = false) (rest : List Char) : skipSpace (c :: rest) = c :: rest := by
  rw [skipSpace, List.dropWhile_cons, h, if_neg (by decide)]

theorem members?_member (fuel depth : Nat) (member : String × String) {c : Char} (h : isSpace c = false)
    (rest : List Char) :
    members? (fuel + 2) depth (memberChars member ++ c :: rest) =
      match c :: rest with
      | '\x7d' :: rest => some (ofStrings [member], rest)
      | ',' :: rest => (members? (fuel + 1) depth rest).map fun (fs, rest) => (ofStrings [member] ++ fs, rest)
      | _ => none := by
  rw [memberChars, toList_quote, List.cons_append, List.cons_append, members?, memberKey?, skipSpace_cons rfl]
  simp only [List.append_assoc, List.cons_append, List.nil_append, stringBody_escaped]
  rw [skipSpace_cons rfl]
  simp only [value?_quote, String.ofList_toList, skipSpace_cons h]
  rfl

/-- Members are read up to the end of their object, one step for each. -/
theorem members?_strings (fuel depth : Nat) (member : String × String) (members : List (String × String))
    (rest : List Char) (hfuel : members.length < fuel) :
    members? (fuel + 1) depth (membersChars (member :: members) ++ '\x7d' :: rest) =
      some (ofStrings (member :: members), rest) := by
  induction members generalizing fuel member with
  | nil =>
      obtain ⟨fuel, rfl⟩ := Nat.exists_eq_succ_of_ne_zero (Nat.ne_zero_of_lt hfuel)
      rw [membersChars, List.map_singleton, List.intercalate_singleton, members?_member fuel depth member rfl]
      rfl
  | cons next members ih =>
      obtain ⟨fuel, rfl⟩ := Nat.exists_eq_succ_of_ne_zero (Nat.ne_zero_of_lt hfuel)
      have hnext := ih fuel next (by simpa using hfuel)
      have hchars : membersChars (member :: next :: members) =
          memberChars member ++ ',' :: membersChars (next :: members) := by
        simp [membersChars, List.intercalate_cons_cons]
      rw [hchars, List.append_assoc, List.cons_append, members?_member fuel depth member rfl]
      simp only [hnext]
      rfl

theorem length_le_membersChars (members : List (String × String)) :
    members.length ≤ (membersChars members).length + 1 := by
  induction members with
  | nil => simp
  | cons member rest ih =>
      cases rest with
      | nil => simp
      | cons next rest =>
          simp only [membersChars, List.map_cons, List.intercalate_cons_cons, List.length_append,
            List.length_cons] at ih ⊢
          omega

theorem membersChars_cons (member : String × String) (members : List (String × String)) :
    ∃ body, membersChars (member :: members) = '"' :: body := by
  cases members with
  | nil => exact ⟨_, by simp [membersChars, memberChars, toList_quote]; rfl⟩
  | cons next rest => exact ⟨_, by simp [membersChars, memberChars, toList_quote, List.intercalate_cons_cons]; rfl⟩

/-- An object of strings under known keys is read back from its text. -/
theorem parseKnown?_ofStrings {known : List String} {member : String × String} {members : List (String × String)}
    (hknown : ∀ m ∈ member :: members, m.1 ∈ known) :
    parseKnown? known (print (.object (ofStrings (member :: members)))) = some (ofStrings (member :: members)) := by
  obtain ⟨body, hbody⟩ := membersChars_cons member members
  have hfuel : members.length < 2 * (body ++ ['\x7d']).length + 3 := by
    have hlength := length_le_membersChars (member :: members)
    rw [hbody] at hlength
    simp only [List.length_cons, List.length_append] at hlength ⊢
    omega
  have hall : (ofStrings (member :: members)).filter (·.1 ∈ known) = ofStrings (member :: members) := by
    rw [List.filter_eq_self, ofStrings]
    intro m hm
    obtain ⟨m', hm', rfl⟩ := List.mem_map.mp hm
    simpa using hknown m' hm'
  have hread := knownMembers?_of_members? known
    (members?_strings _ (maxDepth - 1) member members [] hfuel)
  rw [hbody, hall] at hread
  rw [parseKnown?, toList_print_ofStrings, skipSpace_cons rfl, hbody]
  simp only [List.cons_append] at hread ⊢
  have henough : enough ('"' :: (body ++ ['\x7d'])) = 2 * (body ++ ['\x7d']).length + 3 + 1 := rfl
  have hskip : skipSpace ('"' :: (body ++ ['\x7d'])) = '"' :: (body ++ ['\x7d']) := skipSpace_cons rfl _
  rw [hskip]
  split
  next hend => cases hend
  next =>
    rw [henough, hread]
    rfl

end Json

end Docstore
