import Docstore.Proofs.Text.LetterCase
import Docstore.Proofs.Time.Iso
import Docstore.Time.Relative
import Mathlib.Tactic.Ring

/-!
# Relative times

The phrases that name a time by its distance from now, and the distance that they name. Main statement: while nothing
leaves its range, a text is resolved just if it is `now` or a phrase, to the instant that far ahead or back; blanks
around the words and letter case are of no matter (`resolve_exact`).
-/

namespace Docstore

namespace Text

/-! ## Decimal integers -/

/-- Digits, and the number that they write. -/
def Digits (cs : List Char) (n : Nat) : Prop :=
  cs ≠ [] ∧ (∀ c ∈ cs, c.isDigit = true) ∧ n = Nat.ofDigitChars 10 cs 0

/-- Digits with or without a sign, and the number that they write. -/
inductive Decimal : List Char → Int → Prop
  | unsigned {cs n} (h : Digits cs n) : Decimal cs n
  | plus {cs n} (h : Digits cs n) : Decimal ('+' :: cs) n
  | minus {cs n} (h : Digits cs n) : Decimal ('-' :: cs) (-n)

variable {cs : List Char}

theorem natural?_eq_some_iff {n : Nat} : natural? cs = some n ↔ Digits cs n := by
  constructor
  · intro h
    have hdigits : cs ≠ [] ∧ ∀ c ∈ cs, c.isDigit = true := by
      unfold natural? at h
      split at h
      next hall => simpa using hall
      next => cases h
    rw [natural?_eq hdigits.1 hdigits.2] at h
    exact ⟨hdigits.1, hdigits.2, (Option.some.inj h).symm⟩
  · rintro ⟨hne, hall, rfl⟩
    exact natural?_eq hne hall

theorem natural?_map_eq_some_iff {f : Nat → Int} {n : Int} :
    (natural? cs).map f = some n ↔ ∃ m, Digits cs m ∧ f m = n := by
  simp only [Option.map_eq_some_iff, natural?_eq_some_iff]

theorem Digits.head_ne {c d : Char} {n : Nat} (h : Digits (c :: cs) n) (hd : d.isDigit = false) : c ≠ d := by
  rintro rfl
  rw [h.2.1 c (.head _)] at hd
  cases hd

theorem integer?_eq_some_iff {n : Int} : integer? cs = some n ↔ Decimal cs n := by
  constructor
  · intro h
    unfold integer? at h
    split at h
    · obtain ⟨m, hm, rfl⟩ := natural?_map_eq_some_iff.mp h
      exact .plus hm
    · obtain ⟨m, hm, rfl⟩ := natural?_map_eq_some_iff.mp h
      exact .minus hm
    · obtain ⟨m, hm, rfl⟩ := natural?_map_eq_some_iff.mp h
      exact .unsigned hm
  · intro h
    cases h with
    | unsigned h =>
        rw [integer?]
        · exact natural?_map_eq_some_iff.mpr ⟨_, h, rfl⟩
        · rintro rest rfl
          exact h.head_ne (by decide) rfl
        · rintro rest rfl
          exact h.head_ne (by decide) rfl
    | plus h => exact natural?_map_eq_some_iff.mpr ⟨_, h, rfl⟩
    | minus h => exact natural?_map_eq_some_iff.mpr ⟨_, h, rfl⟩

theorem int64?_eq_some_iff {s : String} {n : Int} :
    int64? s = some n ↔ Decimal s.toList n ∧ inInt64 n = true := by
  rw [int64?, Option.filter_eq_some_iff, integer?_eq_some_iff]

end Text

namespace Time

namespace Instant

/-- The nanoseconds from an instant to another. The leap second that the first is in has ended where the second of the
other is a later one. -/
def nanosTo (now t : Instant) : Int :=
  (t.seconds - now.seconds) * nanosPerSecond + (t.nanos - now.nanos) +
    if now.isLeap ∧ now.seconds < t.seconds then nanosPerSecond else 0

theorem nanosTo_addSeconds (now : Instant) (n : Int) : now.nanosTo (now.addSeconds n) = n * nanosPerSecond := by
  by_cases hleap : now.isLeap = true
  · have hnanos : ((now.nanos - nanosPerSecond : Nat) : Int) = now.nanos - nanosPerSecond :=
      Int.ofNat_sub (of_decide_eq_true hleap)
    rcases lt_trichotomy n 0 with hback | rfl | hahead
    · have hadd : now.addSeconds n = ⟨now.seconds + 1 + n, now.nanos - nanosPerSecond⟩ := by
        simp [addSeconds, hleap, hback.ne, hback.le]
      have hpast : ¬ (now.isLeap = true ∧ now.seconds < now.seconds + 1 + n) := by omega
      rw [hadd, nanosTo, if_neg hpast, hnanos]
      ring
    · simp [addSeconds, nanosTo]
    · have hadd : now.addSeconds n = ⟨now.seconds + n, now.nanos - nanosPerSecond⟩ := by
        simp [addSeconds, hleap, hahead, hahead.ne']
      have hlater : now.isLeap = true ∧ now.seconds < now.seconds + n := ⟨hleap, by omega⟩
      rw [hadd, nanosTo, if_pos hlater, hnanos]
      ring
  · have hadd : now.addSeconds n = ⟨now.seconds + n, now.nanos⟩ := by
      simp [addSeconds, hleap]
    rw [hadd, nanosTo, if_neg fun h => hleap h.1]
    ring

end Instant

namespace Relative

open Docstore.Text (lowerCase)

/-! ## Words -/

theorem words_append_blank (s t : String) : words (s ++ " " ++ t) = words s ++ words t := by
  have htext : (s ++ " " ++ t).toList = s.toList ++ ' ' :: t.toList := by
    rw [String.toList_append, String.toList_append, List.append_assoc]
    rfl
  simp only [words, Text.pieces, htext, Text.splitOn_append, List.map_append, List.filter_append]

theorem words_of_not_mem {s : String} (h : ' ' ∉ s.toList) : words s = [s].filter (· ≠ "") := by
  rw [words, Text.pieces, Text.splitOn_of_not_mem h, List.map_singleton, String.ofList_toList]

/-- The words of a text in lower case are found word by word. -/
theorem words_lowerCase (s : String) : words (lowerCase s) = (words s).flatMap fun w => words (lowerCase w) := by
  -- Along the blanks, by the length of what is behind the first of them.
  induction hlength : s.toList.length using Nat.strong_induction_on generalizing s with
  | h length ih =>
      have hword {u : String} (hu : ' ' ∉ u.toList) :
          (words u).flatMap (fun w => words (lowerCase w)) = words (lowerCase u) := by
        rw [words_of_not_mem hu]
        by_cases hempty : u = ""
        · subst hempty
          rfl
        · simp [hempty]
      by_cases hblank : ' ' ∈ s.toList
      · obtain ⟨before, after, htext, hbefore⟩ := List.eq_append_cons_of_mem hblank
        have hs : s = String.ofList before ++ " " ++ String.ofList after := by
          rw [← String.toList_inj, htext]
          simp
        have hfirst := hword (u := String.ofList before) (by rwa [String.toList_ofList])
        have hafter := ih after.length (by simp [← hlength, htext]; omega) (String.ofList after)
          (by rw [String.toList_ofList])
        rw [hs, Text.lowerCase_append_blank, words_append_blank, words_append_blank, List.flatMap_append, hfirst,
          hafter]
      · exact (hword hblank).symm

theorem words_lowerCase_congr {s t : String} (h : words s = words t) : words (lowerCase s) = words (lowerCase t) := by
  rw [words_lowerCase, h, ← words_lowerCase]

/-! ## Amounts -/

/-- An amount: an integer of 64 bits in decimal digits. -/
def IsAmount (word : String) (n : Int) : Prop := Text.Decimal word.toList n ∧ inInt64 n = true

/-- Words that are pairs of an amount and a unit, as the amounts and the seconds in the units. -/
inductive Pairs : List String → List (Int × Int) → Prop
  | nil : Pairs [] []
  | cons {amount unit ws n k ps} (hn : IsAmount amount n) (hk : unitSeconds? unit = some k) (h : Pairs ws ps) :
      Pairs (amount :: unit :: ws) ((n, k) :: ps)

/-- The seconds in all pairs. -/
def total (ps : List (Int × Int)) : Int := (ps.map fun p => p.1 * p.2).sum

/-- No product and no sum of pairs, added up from a sum on, leaves the range of 64 bits. -/
def AddsUp (sum : Int) : List (Int × Int) → Prop
  | [] => True
  | (n, k) :: ps => inInt64 (n * k) = true ∧ inInt64 (sum + n * k) = true ∧ AddsUp (sum + n * k) ps

theorem addPairs_eq_ok_iff {sum seconds : Int} {ws : List String} :
    addPairs sum ws = .ok seconds ↔ ∃ ps, Pairs ws ps ∧ AddsUp sum ps ∧ seconds = sum + total ps := by
  constructor
  · intro h
    fun_induction addPairs sum ws with
    | case1 sum =>
        cases h
        exact ⟨[], .nil, trivial, by simp [total]⟩
    | case2 => cases h
    | case3 => cases h
    | case4 => cases h
    | case5 sum amount unit rest n hn k hk hrange ih =>
        obtain ⟨ps, hps, hadds, rfl⟩ := ih h
        rw [Bool.and_eq_true] at hrange
        refine ⟨(n, k) :: ps, .cons (Text.int64?_eq_some_iff.mp hn) hk hps, ⟨hrange.1, hrange.2, hadds⟩, ?_⟩
        simp only [total, List.map_cons, List.sum_cons]
        omega
    | case6 => cases h
  · rintro ⟨ps, hps, hadds, rfl⟩
    induction hps generalizing sum with
    | nil => simp [addPairs, total]
    | @cons amount unit ws n k ps hn hk _ ih =>
        obtain ⟨hproduct, hsum, hadds⟩ := hadds
        have hrest := ih hadds
        simp only [addPairs, Text.int64?_eq_some_iff.mpr hn, hk, hproduct, hsum, Bool.and_self, if_true, hrest,
          total, List.map_cons, List.sum_cons, Except.ok.injEq]
        omega

namespace Pairs

variable {ws : List String} {ps ps' : List (Int × Int)}

theorem nil_iff : Pairs [] ps ↔ ps = [] := by
  constructor
  · intro h
    cases h
    rfl
  · rintro rfl
    exact .nil

theorem length_even (h : Pairs ws ps) : ws.length % 2 = 0 := by
  induction h with
  | nil => rfl
  | cons _ _ _ ih =>
      simp only [List.length_cons]
      omega

theorem unique (h : Pairs ws ps) (h' : Pairs ws ps') : ps = ps' := by
  induction h generalizing ps' with
  | nil =>
      cases h'
      rfl
  | cons hn hk _ ih =>
      cases h' with
      | cons hn' hk' h' =>
          have hamount := (Text.int64?_eq_some_iff.mpr hn).symm.trans (Text.int64?_eq_some_iff.mpr hn')
          rw [Option.some.inj hamount, Option.some.inj (hk.symm.trans hk'), ih h']

/-- An amount is not the word in front of a distance ahead. -/
theorem head?_ne (h : Pairs ws ps) : ws.head? ≠ some "in" := by
  cases h with
  | nil => nofun
  | cons hn hk _ =>
      intro heq
      rw [List.head?_cons, Option.some.injEq] at heq
      have hread := Text.int64?_eq_some_iff.mpr hn
      rw [heq, show Text.int64? "in" = none from by decide] at hread
      cases hread

/-- A unit is not the word behind a distance back. -/
theorem getLast?_ne (h : Pairs ws ps) : ws.getLast? ≠ some "ago" := by
  induction h with
  | nil => nofun
  | @cons amount unit ws _ _ _ hn hk hws ih =>
      cases ws with
      | nil =>
          intro heq
          have hunit : unit = "ago" := by simpa using heq
          rw [hunit, show unitSeconds? "ago" = none from by decide] at hk
          cases hk
      | cons w ws => rwa [List.getLast?_cons_cons, List.getLast?_cons_cons]

end Pairs

/-! ## Phrases -/

/-- Words that name a distance from now, the pairs in them and the seconds: `in` in front of pairs, or `ago` behind
them. -/
inductive Phrase : List String → List (Int × Int) → Int → Prop
  | ahead {ws ps} (h : Pairs ws ps) : Phrase ("in" :: ws) ps (total ps)
  | back {ws ps} (h : Pairs ws ps) : Phrase (ws ++ ["ago"]) ps (-total ps)

namespace Phrase

variable {ws : List String} {ps : List (Int × Int)} {n : Int}

theorem getLast?_ahead_ne (h : Pairs ws ps) : ("in" :: ws).getLast? ≠ some "ago" := by
  cases ws with
  | nil => decide
  | cons w ws =>
      rw [List.getLast?_cons_cons]
      exact h.getLast?_ne

theorem head?_back_ne (h : Pairs ws ps) : (ws ++ ["ago"]).head? ≠ some "in" := by
  cases ws with
  | nil => decide
  | cons w ws => exact h.head?_ne

theorem ahead_iff (hin : ws.head? = some "in") (hago : ws.getLast? ≠ some "ago") :
    Phrase ws ps n ↔ Pairs (ws.drop 1) ps ∧ n = total ps := by
  constructor
  · intro h
    cases h with
    | ahead h => exact ⟨h, rfl⟩
    | back h => exact absurd List.getLast?_concat hago
  · rintro ⟨h, rfl⟩
    obtain ⟨rest, rfl⟩ := List.head?_eq_some_iff.mp hin
    exact .ahead h

theorem back_iff (hin : ws.head? ≠ some "in") (hago : ws.getLast? = some "ago") :
    Phrase ws ps n ↔ Pairs ws.dropLast ps ∧ n = -total ps := by
  constructor
  · intro h
    cases h with
    | ahead h => exact absurd rfl hin
    | back h => exact ⟨by rwa [List.dropLast_concat], rfl⟩
  · rintro ⟨h, rfl⟩
    obtain ⟨rest, rfl⟩ := List.getLast?_eq_some_iff.mp hago
    rw [List.dropLast_concat] at h
    exact .back h

/-- A phrase has one of its two words where it belongs, and not the other. -/
theorem head?_iff_getLast?_ne (h : Phrase ws ps n) : ws.head? = some "in" ↔ ws.getLast? ≠ some "ago" := by
  cases h with
  | ahead h => exact iff_of_true rfl (getLast?_ahead_ne h)
  | back h => exact iff_of_false (head?_back_ne h) (not_not.mpr List.getLast?_concat)

theorem unique {ps' : List (Int × Int)} {n' : Int} (h : Phrase ws ps n) (h' : Phrase ws ps' n') :
    ps = ps' ∧ n = n' := by
  by_cases hin : ws.head? = some "in"
  · have hago := h.head?_iff_getLast?_ne.mp hin
    obtain ⟨hps, rfl⟩ := (ahead_iff hin hago).mp h
    obtain ⟨hps', rfl⟩ := (ahead_iff hin hago).mp h'
    exact ⟨hps.unique hps', by rw [hps.unique hps']⟩
  · have hago := not_not.mp (mt h.head?_iff_getLast?_ne.mpr hin)
    obtain ⟨hps, rfl⟩ := (back_iff hin hago).mp h
    obtain ⟨hps', rfl⟩ := (back_iff hin hago).mp h'
    exact ⟨hps.unique hps', by rw [hps.unique hps']⟩

/-- The same pairs make a phrase ahead and a phrase back. -/
theorem mirror (ps : List (Int × Int)) (n : Int) :
    Phrase ("in" :: ws) ps n ↔ Phrase (ws ++ ["ago"]) ps (-n) := by
  constructor
  · intro h
    have hago := h.head?_iff_getLast?_ne.mp rfl
    obtain ⟨hps, rfl⟩ := (ahead_iff rfl hago).mp h
    exact .back hps
  · intro h
    have hago : (ws ++ ["ago"]).getLast? = some "ago" := List.getLast?_concat
    have hin := mt h.head?_iff_getLast?_ne.mp (not_not.mpr hago)
    obtain ⟨hps, hn⟩ := (back_iff hin hago).mp h
    rw [List.dropLast_concat] at hps
    rw [Int.neg_inj.mp hn]
    exact .ahead hps

end Phrase

/-- What a text names, letter case aside: now itself, or the distance of a phrase. -/
def Names (text : String) (ps : List (Int × Int)) (n : Int) : Prop :=
  lowerCase text = "now" ∧ ps = [] ∧ n = 0 ∨ Phrase (words (lowerCase text)) ps n

theorem words_now : words "now" = ["now"] := by decide

theorem not_phrase_now (ps : List (Int × Int)) (n : Int) : ¬ Phrase ["now"] ps n := fun h =>
  absurd (h.head?_iff_getLast?_ne.mpr (by decide)) (by decide)

namespace Names

variable {text : String} {ps : List (Int × Int)} {n : Int}

theorem now_iff (h : lowerCase text = "now") : Names text ps n ↔ ps = [] ∧ n = 0 := by
  simp [Names, h, words_now, not_phrase_now]

theorem phrase_iff (h : lowerCase text ≠ "now") : Names text ps n ↔ Phrase (words (lowerCase text)) ps n := by
  simp [Names, h]

/-- A text names one list of pairs and one distance. -/
theorem unique {ps' : List (Int × Int)} {n' : Int} (h : Names text ps n) (h' : Names text ps' n') :
    ps = ps' ∧ n = n' := by
  by_cases hnow : lowerCase text = "now"
  · obtain ⟨rfl, rfl⟩ := (now_iff hnow).mp h
    obtain ⟨rfl, rfl⟩ := (now_iff hnow).mp h'
    exact ⟨rfl, rfl⟩
  · exact ((phrase_iff hnow).mp h).unique ((phrase_iff hnow).mp h')

end Names

/-! ## Resolving -/

/-- The instant at a distance that is made of the sum of pairs. -/
def settle (now : Instant) (ws : List String) (distance : Int → Int) : Except Failure Instant :=
  if ws.length % 2 ≠ 0 then .error .unpaired
  else match addPairs 0 ws with
    | .error e => .error e
    | .ok seconds =>
      match now.addSeconds? (distance seconds) with
      | some t => .ok t
      | none => .error .outOfRange

theorem settle_eq_ok_iff {now t : Instant} {ws : List String} {distance : Int → Int} :
    settle now ws distance = .ok t ↔ ∃ ps n, (Pairs ws ps ∧ n = distance (total ps)) ∧ AddsUp 0 ps ∧
      (now.addSeconds n).isInRange = true ∧ t = now.addSeconds n := by
  constructor
  · intro h
    unfold settle at h
    split at h
    next => cases h
    next =>
      split at h
      next => cases h
      next seconds hseconds =>
        obtain ⟨ps, hps, hadds, hsum⟩ := addPairs_eq_ok_iff.mp hseconds
        rw [Int.zero_add] at hsum
        refine ⟨ps, distance seconds, ⟨hps, by rw [hsum]⟩, hadds, ?_⟩
        unfold Instant.addSeconds? at h
        by_cases hrange : (now.addSeconds (distance seconds)).isInRange = true
        · simp only [hrange, if_true, Except.ok.injEq] at h
          exact ⟨hrange, h.symm⟩
        · simp [hrange] at h
  · rintro ⟨ps, _, ⟨hps, rfl⟩, hadds, hrange, rfl⟩
    have hseconds := addPairs_eq_ok_iff.mpr ⟨ps, hps, hadds, rfl⟩
    rw [Int.zero_add] at hseconds
    have hlater : now.addSeconds? (distance (total ps)) = some (now.addSeconds (distance (total ps))) := if_pos hrange
    simp only [settle, hps.length_even, ne_eq, not_true_eq_false, if_false, hseconds, hlater]

section

variable {text : String} {now : Instant}

theorem resolve_both (hin : (words (lowerCase text)).head? = some "in")
    (hago : (words (lowerCase text)).getLast? = some "ago") : resolve text now = .error .bothDirections := by
  simp [resolve, hin, hago]

theorem resolve_ahead (hin : (words (lowerCase text)).head? = some "in")
    (hago : (words (lowerCase text)).getLast? ≠ some "ago") :
    resolve text now = settle now ((words (lowerCase text)).drop 1) id := by
  have hfuture : ((words (lowerCase text)).head? == some "in") = true := by simp [hin]
  have hpast : ((words (lowerCase text)).getLast? == some "ago") = false := by simp [hago]
  simp only [resolve, hfuture, hpast, Bool.not_true, Bool.false_and, Bool.and_false, Bool.false_eq_true, if_false,
    if_true]
  -- Both sides do the same with whatever words these are, which are not to be evaluated.
  generalize words (lowerCase text) = ws
  rfl

theorem resolve_back (hin : (words (lowerCase text)).head? ≠ some "in")
    (hago : (words (lowerCase text)).getLast? = some "ago") :
    resolve text now = settle now (words (lowerCase text)).dropLast Neg.neg := by
  have hfuture : ((words (lowerCase text)).head? == some "in") = false := by simp [hin]
  have hpast : ((words (lowerCase text)).getLast? == some "ago") = true := by simp [hago]
  simp only [resolve, hfuture, hpast, Bool.not_true, Bool.false_and, Bool.and_false, Bool.false_eq_true, if_false,
    if_true]
  generalize words (lowerCase text) = ws
  rfl

theorem resolve_now (h : lowerCase text = "now") : resolve text now = settle now [] (fun _ => 0) := by
  simp only [resolve, h, bne_self_eq_false, Bool.and_false, Bool.false_eq_true, if_false, words_now]
  rfl

theorem resolve_neither (hin : (words (lowerCase text)).head? ≠ some "in")
    (hago : (words (lowerCase text)).getLast? ≠ some "ago") (hnow : lowerCase text ≠ "now") :
    resolve text now = .error .noDirection := by
  simp [resolve, hin, hago, hnow]

end

variable {text : String} {now : Instant}

/-- A text is resolved just if it names a distance that is within range, to the instant at that distance. -/
theorem resolve_eq_ok_iff {t : Instant} : resolve text now = .ok t ↔ ∃ ps n, Names text ps n ∧ AddsUp 0 ps ∧
    (now.addSeconds n).isInRange = true ∧ t = now.addSeconds n := by
  by_cases hnow : lowerCase text = "now"
  · rw [resolve_now hnow, settle_eq_ok_iff]
    simp only [Names.now_iff hnow, Pairs.nil_iff]
  simp only [Names.phrase_iff hnow]
  by_cases hin : (words (lowerCase text)).head? = some "in" <;>
    by_cases hago : (words (lowerCase text)).getLast? = some "ago"
  · rw [resolve_both hin hago]
    refine iff_of_false nofun ?_
    rintro ⟨ps, n, h, -⟩
    exact h.head?_iff_getLast?_ne.mp hin hago
  · rw [resolve_ahead hin hago, settle_eq_ok_iff]
    simp only [Phrase.ahead_iff hin hago, id]
  · rw [resolve_back hin hago, settle_eq_ok_iff]
    simp only [Phrase.back_iff hin hago]
  · rw [resolve_neither hin hago hnow]
    refine iff_of_false nofun ?_
    rintro ⟨ps, n, h, -⟩
    exact hin (h.head?_iff_getLast?_ne.mpr hago)

/-- Texts with the same words in lower case are resolved alike, but for blanks around `now`. -/
theorem resolve_congr {other : String} (h : words (lowerCase other) = words (lowerCase text))
    (hnow : lowerCase other = "now" ↔ lowerCase text = "now") : resolve other now = resolve text now := by
  simp only [resolve, h, bne_iff_ne, ne_eq, hnow, Bool.and_eq_true]

/-- Nothing that resolving a text comes upon leaves its range: no product, no sum and not the instant that the text
names. -/
def StaysInRange (text : String) (now : Instant) : Prop :=
  ∀ ps n, Names text ps n → AddsUp 0 ps ∧ (now.addSeconds n).isInRange = true

theorem StaysInRange.resolve_eq (h : StaysInRange text now) {ps : List (Int × Int)} {n : Int}
    (hnames : Names text ps n) : resolve text now = .ok (now.addSeconds n) := by
  obtain ⟨hadds, hrange⟩ := h ps n hnames
  exact resolve_eq_ok_iff.mpr ⟨ps, n, hnames, hadds, hrange, rfl⟩

theorem StaysInRange.exists_ok_iff (h : StaysInRange text now) :
    (∃ t, resolve text now = .ok t) ↔ ∃ ps n, Names text ps n := by
  constructor
  · rintro ⟨t, ht⟩
    obtain ⟨ps, n, hnames, -⟩ := resolve_eq_ok_iff.mp ht
    exact ⟨ps, n, hnames⟩
  · rintro ⟨ps, n, hnames⟩
    exact ⟨_, h.resolve_eq hnames⟩

/-! ## Ahead and back -/

theorem words_ahead (body : String) : words (lowerCase ("in " ++ body)) = "in" :: words (lowerCase body) := by
  have hin : words (lowerCase "in") = ["in"] := by decide
  rw [show "in " = "in" ++ " " from rfl, Text.lowerCase_append_blank, words_append_blank, hin, List.singleton_append]

theorem words_back (body : String) : words (lowerCase (body ++ " ago")) = words (lowerCase body) ++ ["ago"] := by
  have hago : words (lowerCase "ago") = ["ago"] := by decide
  rw [show " ago" = " " ++ "ago" from rfl, ← String.append_assoc, Text.lowerCase_append_blank, words_append_blank,
    hago]

/-- A body names the same distance ahead, behind `in`, and back, in front of `ago`. -/
theorem Names.mirror (body : String) (ps : List (Int × Int)) (n : Int) :
    Names ("in " ++ body) ps n ↔ Names (body ++ " ago") ps (-n) := by
  have hahead : lowerCase ("in " ++ body) ≠ "now" := by
    intro h
    have hwords := words_ahead body
    rw [h, words_now] at hwords
    exact absurd (List.cons.inj hwords).1 (by decide)
  have hback : lowerCase (body ++ " ago") ≠ "now" := by
    intro h
    have hlast := congrArg List.getLast? (words_back body)
    rw [h, words_now, List.getLast?_concat] at hlast
    exact absurd hlast (by decide)
  rw [Names.phrase_iff hahead, Names.phrase_iff hback, words_ahead, words_back]
  exact Phrase.mirror ps n

/-- While nothing leaves its range, a text is resolved just if it is `now` or a phrase, letter case aside, and then to
the instant at the distance that it names, which is made of the sum of its pairs alone and is as far ahead, behind
`in`, as it is back, in front of `ago`. The case of letters is of no matter, and the number of blanks is of none but
around `now`. -/
theorem resolve_exact (h : StaysInRange text now) :
    ((∃ t, resolve text now = .ok t) ↔ ∃ ps n, Names text ps n) ∧
      (∀ ps n, Names text ps n → resolve text now = .ok (now.addSeconds n) ∧
        now.nanosTo (now.addSeconds n) = n * Instant.nanosPerSecond) ∧
      (∀ other ps ps' n, StaysInRange other now → Names text ps n → Names other ps' n →
        resolve other now = resolve text now) ∧
      (∀ body, text = "in " ++ body → StaysInRange (body ++ " ago") now →
        ((∃ t, resolve text now = .ok t) ↔ ∃ t, resolve (body ++ " ago") now = .ok t) ∧
        ∀ t t', resolve text now = .ok t → resolve (body ++ " ago") now = .ok t' →
          now.nanosTo t' = -now.nanosTo t) ∧
      (∀ other, lowerCase other = lowerCase text ∨
        other.toList.map Char.toLower = text.toList.map Char.toLower → resolve other now = resolve text now) ∧
      ∀ other, words other = words text → words (lowerCase text) ≠ ["now"] →
        resolve other now = resolve text now := by
  refine ⟨h.exists_ok_iff, fun ps n hnames => ⟨h.resolve_eq hnames, now.nanosTo_addSeconds n⟩, ?_, ?_, ?_, ?_⟩
  · intro other ps ps' n hother hnames hnames'
    rw [hother.resolve_eq hnames', h.resolve_eq hnames]
  · rintro body rfl hback
    refine ⟨?_, fun t t' ht ht' => ?_⟩
    · rw [h.exists_ok_iff, hback.exists_ok_iff]
      constructor
      · rintro ⟨ps, n, hnames⟩
        exact ⟨ps, -n, (Names.mirror body ps n).mp hnames⟩
      · rintro ⟨ps, n, hnames⟩
        refine ⟨ps, -n, (Names.mirror body ps (-n)).mpr ?_⟩
        rwa [Int.neg_neg]
    · obtain ⟨ps, n, hnames, -, -, rfl⟩ := resolve_eq_ok_iff.mp ht
      have hmirror := hback.resolve_eq ((Names.mirror body ps n).mp hnames)
      rw [ht', Except.ok.injEq] at hmirror
      rw [hmirror, Instant.nanosTo_addSeconds, Instant.nanosTo_addSeconds, Int.neg_mul]
  · intro other hcase
    have hlower : lowerCase other = lowerCase text := hcase.elim id Text.lowerCase_congr
    exact resolve_congr (by rw [hlower]) (by rw [hlower])
  · intro other hwords hnow
    have hlower := words_lowerCase_congr hwords
    refine resolve_congr hlower (iff_of_false (fun heq => hnow ?_) fun heq => hnow ?_)
    · rw [← hlower, heq, words_now]
    · rw [heq, words_now]

theorem names_mixed : Names "In 2 days  -3 Hours" [(2, 86400), (-3, 3600)] 162000 := by
  have hwords : words (lowerCase "In 2 days  -3 Hours") = ["in", "2", "days", "-3", "hours"] := by decide
  have hdays : IsAmount "2" 2 := Text.int64?_eq_some_iff.mp (by decide)
  have hhours : IsAmount "-3" (-3) := Text.int64?_eq_some_iff.mp (by decide)
  refine .inr ?_
  rw [hwords]
  exact .ahead (.cons hdays (by decide) (.cons hhours (by decide) .nil))

theorem resolve_exact_mixed :
    StaysInRange "In 2 days  -3 Hours" ⟨0, 0⟩ ∧ resolve "In 2 days  -3 Hours" ⟨0, 0⟩ = .ok ⟨162000, 0⟩ := by
  have hrange : StaysInRange "In 2 days  -3 Hours" ⟨0, 0⟩ := by
    intro ps n h
    obtain ⟨rfl, rfl⟩ := h.unique names_mixed
    exact ⟨by simp only [AddsUp]; decide, by decide⟩
  exact ⟨hrange, ((resolve_exact hrange).2.1 _ _ names_mixed).1⟩

end Relative

end Time

end Docstore
