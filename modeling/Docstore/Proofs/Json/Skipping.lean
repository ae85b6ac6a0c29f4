import Docstore.Json.Parser

/-!
# Values that are passed over

A value that can be read can also be passed over, and the same text follows it (`skipValue?_of_value?`). So of an
object that can be read, the members under known keys are read, whatever they stand among
(`knownMembers?_of_members?`).
-/

namespace Docstore

namespace Json

/-! ## Strings and numbers -/

theorem consChar_eq_some {c : Char} {read : Option (List Char × List Char)} {s rest : List Char}
    (h : consChar c read = some (s, rest)) : ∃ s', read = some (s', rest) := by
  cases read with
  | none => cases h
  | some read =>
      cases h
      exact ⟨_, rfl⟩

theorem skipString_number {a b c d : Char} {n : Nat} (h : hex4? a b c d = some n) (rest : List Char) :
    skipString ('\\' :: 'u' :: a :: b :: c :: d :: rest) = skipString rest := by
  rw [skipString, h]
  rfl

theorem skipString_of_stringBody {cs s rest : List Char} (h : stringBody cs = some (s, rest)) :
    skipString cs = some rest := by
  fun_induction stringBody cs generalizing s rest with
  | case1 | case3 | case4 | case5 | case7 | case8 | case11 | case12 => cases h
  | case2 =>
      cases h
      rfl
  | case6 _ _ _ _ _ hn _ _ _ _ _ _ rest' _ hm _ ih =>
      -- Both numbers of a pair are passed over one after the other.
      obtain ⟨s', hs⟩ := consChar_eq_some h
      rw [skipString_number hn, skipString_number hm, ih hs]
  | case9 _ _ _ _ _ _ hn _ _ ih =>
      obtain ⟨s', hs⟩ := consChar_eq_some h
      rw [skipString_number hn, ih hs]
  | case10 e rest' hnumber c hc ih =>
      obtain ⟨s', hs⟩ := consChar_eq_some h
      rw [skipString, hc, ← ih hs]
      · rfl
      · exact hnumber
  | case13 c rest' hquote hnumber hshort hplain ih =>
      obtain ⟨s', hs⟩ := consChar_eq_some h
      rw [skipString, if_neg hplain, ih hs]
      · exact hquote
      · exact hnumber
      · exact hshort

theorem numeral?_of_number? {negative : Bool} {cs rest : List Char} {v : Json}
    (h : number? negative cs = some (v, rest)) : (numeral? cs).map Prod.snd = some rest := by
  obtain ⟨⟨n, rest'⟩, hnumeral, hnumber⟩ := Option.bind_eq_some_iff.mp h
  obtain ⟨x, hx, hv⟩ := Option.bind_eq_some_iff.mp hnumber
  cases hv
  rw [hnumeral]
  rfl

/-! ## Values -/

theorem skipKey_of_key {cs k rest : List Char} (h : memberKey? stringBody cs = some (k, rest)) :
    memberKey? (fun cs => (skipString cs).map ((), ·)) cs = some ((), rest) := by
  unfold memberKey? at h ⊢
  split at h
  case h_1 =>
    split at h
    case h_1 => cases h
    case h_2 hbody =>
      simp only [skipString_of_stringBody hbody, Option.map_some]
      split at h
      case h_1 =>
        cases h
        rfl
      case h_2 => cases h
  case h_2 => cases h

mutual

theorem skipValue?_of_value? {fuel depth : Nat} {cs rest : List Char} {v : Json}
    (h : value? fuel depth cs = some (v, rest)) : skipValue? fuel cs = some rest := by
  cases fuel with
  | zero => cases h
  | succ fuel =>
      rw [value?] at h
      rw [skipValue?]
      generalize skipSpace cs = ts at h ⊢
      split at h
      case h_1 | h_2 | h_3 =>
        obtain ⟨rest', hword, hv⟩ := Option.map_eq_some_iff.mp h
        cases hv
        exact hword
      case h_4 =>
        obtain ⟨⟨s, rest'⟩, hbody, hv⟩ := Option.map_eq_some_iff.mp h
        cases hv
        exact skipString_of_stringBody hbody
      case h_5 => exact numeral?_of_number? h
      case h_6 rest' =>
        replace h := (Option.ite_none_left_eq_some.mp h).2
        generalize skipSpace rest' = ts at h ⊢
        split at h
        case h_1 =>
          cases h
          rfl
        case h_2 hend =>
          obtain ⟨⟨vs, rest'⟩, hitems, hv⟩ := Option.map_eq_some_iff.mp h
          cases hv
          simpa using skipItems?_of_items? hitems
      case h_7 rest' =>
        replace h := (Option.ite_none_left_eq_some.mp h).2
        generalize skipSpace rest' = ts at h ⊢
        split at h
        case h_1 =>
          cases h
          rfl
        case h_2 hend =>
          obtain ⟨⟨ms, rest'⟩, hmembers, hv⟩ := Option.map_eq_some_iff.mp h
          cases hv
          simpa using skipMembers?_of_members? hmembers
      case h_8 => simpa using numeral?_of_number? h

theorem skipItems?_of_items? {fuel depth : Nat} {cs rest : List Char} {vs : List Json}
    (h : items? fuel depth cs = some (vs, rest)) : skipItems? fuel cs = some rest := by
  cases fuel with
  | zero => cases h
  | succ fuel =>
      rw [items?] at h
      rw [skipItems?]
      split at h
      case h_1 => cases h
      case h_2 v rest' hvalue =>
        simp only [skipValue?_of_value? hvalue]
        generalize skipSpace rest' = ts at h ⊢
        split at h
        case h_1 =>
          cases h
          rfl
        case h_2 =>
          obtain ⟨⟨vs, rest'⟩, hitems, hv⟩ := Option.map_eq_some_iff.mp h
          cases hv
          exact skipItems?_of_items? hitems
        case h_3 => cases h

theorem skipMembers?_of_members? {fuel depth : Nat} {cs rest : List Char} {ms : List (String × Json)}
    (h : members? fuel depth cs = some (ms, rest)) : skipMembers? fuel cs = some rest := by
  cases fuel with
  | zero => cases h
  | succ fuel =>
      rw [members?] at h
      rw [skipMembers?]
      split at h
      case h_1 => cases h
      case h_2 hkey =>
        simp only [skipKey_of_key hkey]
        split at h
        case h_1 => cases h
        case h_2 v afterValue hvalue =>
          simp only [skipValue?_of_value? hvalue]
          generalize skipSpace afterValue = ts at h ⊢
          split at h
          case h_1 =>
            cases h
            rfl
          case h_2 =>
            obtain ⟨⟨ms, rest'⟩, hmembers, hms⟩ := Option.map_eq_some_iff.mp h
            cases hms
            exact skipMembers?_of_members? hmembers
          case h_3 => cases h

end

/-! ## Members -/

/-- A member that can be read is read under a key that is known, and passed over otherwise. -/
theorem knownMember?_of_value? (known : List String) {fuel depth : Nat} {cs rest : List Char} {v : Json}
    (h : value? fuel depth cs = some (v, rest)) (key : String) :
    knownMember? known fuel depth key cs = some ([(key, v)].filter (·.1 ∈ known), rest) := by
  rw [knownMember?]
  by_cases hkey : key ∈ known
  · rw [if_pos hkey, h]
    simp [hkey]
  · rw [if_neg hkey, skipValue?_of_value? h]
    simp [hkey]

theorem knownMembers?_of_members? (known : List String) {fuel depth : Nat} {cs rest : List Char}
    {ms : List (String × Json)} (h : members? fuel depth cs = some (ms, rest)) :
    knownMembers? known fuel depth cs = some (ms.filter (·.1 ∈ known), rest) := by
  induction fuel generalizing cs ms with
  | zero => cases h
  | succ fuel ih =>
      rw [members?] at h
      rw [knownMembers?]
      split at h
      case h_1 => cases h
      case h_2 hkey =>
        split at h
        case h_1 => cases h
        case h_2 v afterValue hvalue =>
          simp only [knownMember?_of_value? known hvalue]
          generalize skipSpace afterValue = ts at h ⊢
          split at h
          case h_1 =>
            cases h
            rfl
          case h_2 =>
            obtain ⟨⟨ms', rest'⟩, hmembers, hms⟩ := Option.map_eq_some_iff.mp h
            cases hms
            simp only [ih hmembers, Option.map_some, ← List.filter_append, List.singleton_append]
          case h_3 => cases h

end Json

end Docstore
