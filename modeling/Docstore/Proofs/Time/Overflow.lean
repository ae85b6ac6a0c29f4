import Docstore.Proofs.Time.Phrases

/-!
# Relative times out of range

Which texts name no time because a number on the way leaves its range: the product of an amount and its unit, the sum
of the products, the span of time that the sum is, or the instant that is reached. Main statement: just these texts
are out of range, whatever instant of the calendar is now (`outOfRange_iff`).
-/

namespace Docstore.Time

/-! ## Spans of time -/

/-- The seconds in the longest span, whose milliseconds are the largest number of 64 bits with a sign. -/
def longestSpan : Nat := 0x7fffffffffffffff / 1000

namespace Instant

theorem isInRange_iff {t : Instant} :
    t.isInRange = true ↔ -8334601228800 ≤ t.seconds ∧ t.seconds ≤ 8210266876799 := by
  rw [isInRange, Bool.and_eq_true, decide_eq_true_eq, decide_eq_true_eq, minSeconds, maxSeconds]

/-- No two instants of the calendar are so far apart. -/
theorem isInRange_of_long {now : Instant} {n : Int} (hnow : now.isInRange = true) (hlong : longestSpan < n.natAbs) :
    (now.addSeconds n).isInRange = false := by
  have hseconds : (now.addSeconds n).seconds = now.seconds + n ∨ (now.addSeconds n).seconds = now.seconds + 1 + n := by
    unfold addSeconds
    split
    · split <;> simp
    · simp
  rw [isInRange_iff] at hnow
  rw [← Bool.not_eq_true, isInRange_iff]
  rw [longestSpan] at hlong
  omega

end Instant

namespace Relative

open Docstore.Text (lowerCase)

/-! ## Sums -/

/-- Behind pairs that add up, from a sum on, there is a pair that does not: its product or the next sum is beyond the
range of 64 bits. What stands behind it is of no matter. -/
inductive Overflows (sum : Int) : List String → Prop
  | product {before after amount unit ps n k} (hps : Pairs before ps) (hadds : AddsUp sum ps) (hn : IsAmount amount n)
      (hk : unitSeconds? unit = some k) (h : inInt64 (n * k) = false) :
      Overflows sum (before ++ amount :: unit :: after)
  | sum {before after amount unit ps n k} (hps : Pairs before ps) (hadds : AddsUp sum ps) (hn : IsAmount amount n)
      (hk : unitSeconds? unit = some k) (h : inInt64 (sum + total ps + n * k) = false) :
      Overflows sum (before ++ amount :: unit :: after)

theorem total_cons (p : Int × Int) (ps : List (Int × Int)) : total (p :: ps) = p.1 * p.2 + total ps := by
  rw [total, List.map_cons, List.sum_cons, total]

variable {sum : Int} {ws : List String}

theorem Overflows.cons {amount unit : String} {n k : Int} (hn : IsAmount amount n) (hk : unitSeconds? unit = some k)
    (hproduct : inInt64 (n * k) = true) (hsum : inInt64 (sum + n * k) = true) (h : Overflows (sum + n * k) ws) :
    Overflows sum (amount :: unit :: ws) := by
  cases h with
  | product hps hadds hm hl h => exact .product (.cons hn hk hps) ⟨hproduct, hsum, hadds⟩ hm hl h
  | sum hps hadds hm hl h =>
      refine .sum (.cons hn hk hps) ⟨hproduct, hsum, hadds⟩ hm hl ?_
      rw [total_cons, ← Int.add_assoc]
      exact h

theorem addPairs_append {before after : List String} {ps : List (Int × Int)} (hps : Pairs before ps)
    (hadds : AddsUp sum ps) : addPairs sum (before ++ after) = addPairs (sum + total ps) after := by
  induction hps generalizing sum with
  | nil => simp [total]
  | @cons amount unit ws n k ps hn hk _ ih =>
      obtain ⟨hproduct, hsum, hadds⟩ := hadds
      rw [List.cons_append, List.cons_append, addPairs, Text.int64?_eq_some_iff.mpr hn]
      simp only [hk, hproduct, hsum, Bool.and_self, if_true]
      rw [ih hadds, total_cons, Int.add_assoc]

theorem addPairs_eq_outOfRange_iff : addPairs sum ws = .error .outOfRange ↔ Overflows sum ws := by
  constructor
  · intro h
    fun_induction addPairs sum ws with
    | case1 => cases h
    | case2 => cases h
    | case3 => cases h
    | case4 => cases h
    | case5 sum amount unit rest n hn k hk hrange ih =>
        rw [Bool.and_eq_true] at hrange
        exact .cons (Text.int64?_eq_some_iff.mp hn) hk hrange.1 hrange.2 (ih h)
    | case6 sum amount unit rest n hn k hk hrange =>
        rw [Bool.and_eq_true, not_and_or, Bool.not_eq_true, Bool.not_eq_true] at hrange
        have hamount := Text.int64?_eq_some_iff.mp hn
        have hbefore : Pairs [] [] := .nil
        rcases hrange with hproduct | hsum
        · exact .product hbefore trivial hamount hk hproduct
        · refine .sum hbefore trivial hamount hk ?_
          rwa [total, List.map_nil, List.sum_nil, Int.add_zero]
  · rintro (⟨hps, hadds, hn, hk, h⟩ | ⟨hps, hadds, hn, hk, h⟩)
    · rw [addPairs_append hps hadds, addPairs, Text.int64?_eq_some_iff.mpr hn]
      simp only [hk, h, Bool.false_and, Bool.false_eq_true, if_false]
    · rw [addPairs_append hps hadds, addPairs, Text.int64?_eq_some_iff.mpr hn]
      simp only [hk, h, Bool.and_false, Bool.false_eq_true, if_false]

/-! ## Texts -/

/-- The ways in which words in front of or behind a word of direction, and the instant at the distance that they make of
their sum, are out of range. -/
inductive Leaves (now : Instant) (distance : Int → Int) (ws : List String) : Prop
  | overflow (h : Overflows 0 ws)
  | span {ps} (hps : Pairs ws ps) (hadds : AddsUp 0 ps) (h : longestSpan < (total ps).natAbs)
  | calendar {ps} (hps : Pairs ws ps) (hadds : AddsUp 0 ps)
      (h : (now.addSeconds (distance (total ps))).isInRange = false)

theorem settle_eq_outOfRange_iff {now : Instant} {distance : Int → Int} (hnow : now.isInRange = true)
    (hdistance : ∀ n, (distance n).natAbs = n.natAbs) :
    settle now ws distance = .error .outOfRange ↔ ws.length % 2 = 0 ∧ Leaves now distance ws := by
  by_cases hlength : ws.length % 2 = 0
  · simp only [hlength, true_and]
    cases hsum : addPairs 0 ws with
    | error e =>
        have hsettle : settle now ws distance = .error .outOfRange ↔ addPairs 0 ws = .error .outOfRange := by
          simp [settle, hlength, hsum]
        have hpairs {ps} (hps : Pairs ws ps) (hadds : AddsUp 0 ps) : False := by
          have hok := addPairs_eq_ok_iff.mpr ⟨ps, hps, hadds, rfl⟩
          rw [hsum] at hok
          cases hok
        rw [hsettle, addPairs_eq_outOfRange_iff]
        constructor
        · exact .overflow
        · rintro (h | ⟨hps, hadds, -⟩ | ⟨hps, hadds, -⟩)
          · exact h
          · exact (hpairs hps hadds).elim
          · exact (hpairs hps hadds).elim
    | ok seconds =>
        obtain ⟨ps, hps, hadds, htotal⟩ := addPairs_eq_ok_iff.mp hsum
        rw [Int.zero_add] at htotal
        subst htotal
        have hsettle : settle now ws distance = .error .outOfRange ↔
            (now.addSeconds (distance (total ps))).isInRange = false := by
          simp only [settle, hlength, hsum, Instant.addSeconds?]
          cases (now.addSeconds (distance (total ps))).isInRange <;> simp
        rw [hsettle]
        constructor
        · exact .calendar hps hadds
        · rintro (h | ⟨hps', -, h⟩ | ⟨hps', -, h⟩)
          · rw [addPairs_eq_outOfRange_iff.mpr h] at hsum
            cases hsum
          · -- A span that is too long leads out of the calendar as well.
            rw [hps'.unique hps, ← hdistance] at h
            exact Instant.isInRange_of_long hnow h
          · rwa [hps'.unique hps] at h
  · simp [settle, hlength]

/-- Words with one of the two words of direction where it belongs and not with the other, the words beside it, and what
it makes of their sum. -/
inductive Directed : List String → List String → (Int → Int) → Prop
  | ahead {body} (h : ("in" :: body).getLast? ≠ some "ago") : Directed ("in" :: body) body id
  | back {body} (h : (body ++ ["ago"]).head? ≠ some "in") : Directed (body ++ ["ago"]) body Neg.neg

namespace Directed

variable {body : List String} {distance : Int → Int}

theorem ahead_iff (hin : ws.head? = some "in") (hago : ws.getLast? ≠ some "ago") :
    Directed ws body distance ↔ body = ws.drop 1 ∧ distance = id := by
  constructor
  · intro h
    cases h with
    | ahead h => exact ⟨rfl, rfl⟩
    | back h => exact absurd List.getLast?_concat hago
  · rintro ⟨rfl, rfl⟩
    obtain ⟨rest, rfl⟩ := List.head?_eq_some_iff.mp hin
    exact .ahead hago

theorem back_iff (hin : ws.head? ≠ some "in") (hago : ws.getLast? = some "ago") :
    Directed ws body distance ↔ body = ws.dropLast ∧ distance = Neg.neg := by
  constructor
  · intro h
    cases h with
    | ahead h => exact absurd rfl hin
    | back h => exact ⟨List.dropLast_concat.symm, rfl⟩
  · rintro ⟨rfl, rfl⟩
    obtain ⟨rest, rfl⟩ := List.getLast?_eq_some_iff.mp hago
    rw [List.dropLast_concat]
    exact .back hin

theorem head?_iff_getLast?_ne (h : Directed ws body distance) : ws.head? = some "in" ↔ ws.getLast? ≠ some "ago" := by
  cases h with
  | ahead h => exact iff_of_true rfl h
  | back h => exact iff_of_false h (not_not.mpr List.getLast?_concat)

end Directed

theorem resolve_ne_outOfRange {text : String} {now : Instant} (hnow : now.isInRange = true)
    (hin : (words (lowerCase text)).head? ≠ some "in") (hago : (words (lowerCase text)).getLast? ≠ some "ago") :
    resolve text now ≠ .error .outOfRange := by
  by_cases htext : lowerCase text = "now"
  · have hstays : (now.addSeconds 0).isInRange = true := by simpa [Instant.addSeconds] using hnow
    rw [resolve_eq_ok_iff.mpr ⟨[], 0, .inl ⟨htext, rfl, rfl⟩, trivial, hstays, rfl⟩]
    intro h
    cases h
  · rw [resolve_neither hin hago htext]
    intro h
    cases h

/-- While an instant of the calendar is now, a text is out of range just if one word gives it a direction and the words
beside it, an even number of them, leave a range. Every other text has an instant of the calendar, the one at the exact
distance that it names, or a reason why it has none. -/
theorem outOfRange_iff {text : String} {now : Instant} (hnow : now.isInRange = true) :
    (resolve text now = .error .outOfRange ↔
      ∃ ws distance, Directed (words (lowerCase text)) ws distance ∧ ws.length % 2 = 0 ∧ Leaves now distance ws) ∧
      ∀ t, resolve text now = .ok t → t.isInRange = true ∧
        ∃ ps n, Names text ps n ∧ AddsUp 0 ps ∧ t = now.addSeconds n := by
  refine ⟨?_, fun t ht => ?_⟩
  · by_cases hin : (words (lowerCase text)).head? = some "in" <;>
      by_cases hago : (words (lowerCase text)).getLast? = some "ago"
    · rw [resolve_both hin hago]
      refine iff_of_false nofun ?_
      rintro ⟨ws, distance, h, -⟩
      exact h.head?_iff_getLast?_ne.mp hin hago
    · have hdistance (n : Int) : (id n).natAbs = n.natAbs := rfl
      rw [resolve_ahead hin hago, settle_eq_outOfRange_iff hnow hdistance]
      simp only [Directed.ahead_iff hin hago, and_assoc, exists_and_left, exists_eq_left]
    · rw [resolve_back hin hago, settle_eq_outOfRange_iff hnow Int.natAbs_neg]
      simp only [Directed.back_iff hin hago, and_assoc, exists_and_left, exists_eq_left]
    · refine iff_of_false (resolve_ne_outOfRange hnow hin hago) ?_
      rintro ⟨ws, distance, h, -⟩
      exact hin (h.head?_iff_getLast?_ne.mpr hago)
  · obtain ⟨ps, n, hnames, hadds, hrange, rfl⟩ := resolve_eq_ok_iff.mp ht
    exact ⟨hrange, ps, n, hnames, hadds, rfl⟩

/-- The amount alone is in range, its seconds are not, and the words behind are not looked at. -/
theorem outOfRange_iff_years : (⟨0, 0⟩ : Instant).isInRange = true ∧
    resolve "in 1 day 9223372036854775807 years x y" ⟨0, 0⟩ = .error .outOfRange := by
  refine ⟨by decide, (outOfRange_iff (by decide)).1.mpr ?_⟩
  have hwords : words (lowerCase "in 1 day 9223372036854775807 years x y") =
      ["in", "1", "day", "9223372036854775807", "years", "x", "y"] := by decide
  have hday : IsAmount "1" 1 := Text.int64?_eq_some_iff.mp (by decide)
  have hyears : IsAmount "9223372036854775807" 9223372036854775807 := Text.int64?_eq_some_iff.mp (by decide)
  have hbefore : Pairs ["1", "day"] [(1, 86400)] := .cons hday (by decide) .nil
  have hoverflows : Overflows 0 ["1", "day", "9223372036854775807", "years", "x", "y"] :=
    .product hbefore (by simp only [AddsUp]; decide) hyears (show unitSeconds? "years" = some 31536000 by decide)
      (by decide)
  rw [hwords]
  exact ⟨_, _, .ahead (by decide), by decide, .overflow hoverflows⟩

/-- A distance of which every number is small leads out of the calendar. -/
theorem years_outOfRange : ¬ ∀ (text : String) (now : Instant), now.isInRange = true →
    resolve text now ≠ .error .outOfRange := by
  intro h
  exact h "in 300000 years" ⟨1717243200, 0⟩ (by decide) (by decide)

end Relative

end Docstore.Time
