import Docstore.Proofs.Number.Exactness

/-!
# Rounding keeps the order

Of two numbers the larger one is not rounded to the smaller double (`nearest_mono`), so that the integers of which a
double is the nearest lie between two ends. For the first number past 64 bits with a sign these are
`ofInt_eq_int64Bound_iff`.
-/

namespace Docstore

theorem div_le_roundHalfEven (n d : Nat) : n / d ≤ roundHalfEven n d ∧ roundHalfEven n d ≤ n / d + 1 := by
  unfold roundHalfEven
  dsimp only
  split_ifs <;> omega

theorem roundHalfEven_mono {m n : Nat} (h : m ≤ n) (d : Nat) : roundHalfEven m d ≤ roundHalfEven n d := by
  rcases (Nat.div_le_div_right h : m / d ≤ n / d).lt_or_eq with hlt | heq
  · have hm := (div_le_roundHalfEven m d).2
    have hn := (div_le_roundHalfEven n d).1
    omega
  · -- The quotients are the same, so the remainders are in order.
    have hmod : m % d ≤ n % d := by
      have hm := Nat.div_add_mod m d
      have hn := Nat.div_add_mod n d
      rw [heq] at hm
      omega
    unfold roundHalfEven
    simp only [heq]
    split_ifs <;> omega

theorem log2_mono {m n : Nat} (h : m ≤ n) : m.log2 ≤ n.log2 := by
  rcases Nat.eq_zero_or_pos m with rfl | hm
  · exact Nat.zero_le _
  · exact (Nat.le_log2 (by omega)).mpr ((Nat.log2_self_le hm.ne').trans h)

namespace BinaryFormat

variable (f : BinaryFormat)

/-- The exponent of the number nearest to `n / d` units, one less than its bits say. -/
def exponentOf (n d : Nat) : Nat := (n / d).log2 - f.fraction

theorem nearest_eq (num den : Nat) :
    f.nearest num den =
      min f.infinity (f.exponentOf (num <<< f.scale) den * 2 ^ f.fraction +
        roundHalfEven (num <<< f.scale) (den * 2 ^ f.exponentOf (num <<< f.scale) den)) := by
  simp only [nearest, exponentOf, Nat.shiftLeft_eq]

/-- A significand has no more than one bit beside the fraction, but for a carry, and no less with an exponent. -/
theorem significand_bounds (n d : Nat) :
    roundHalfEven n (d * 2 ^ f.exponentOf n d) ≤ 2 ^ (f.fraction + 1) ∧
      (0 < f.exponentOf n d → 2 ^ f.fraction ≤ roundHalfEven n (d * 2 ^ f.exponentOf n d)) := by
  obtain ⟨hlow, hhigh⟩ := div_le_roundHalfEven n (d * 2 ^ f.exponentOf n d)
  rw [← Nat.div_div_eq_div_mul] at hlow hhigh
  have hpos : 0 < 2 ^ f.exponentOf n d := Nat.two_pow_pos _
  constructor
  · have hlog : n / d < 2 ^ (f.fraction + 1) * 2 ^ f.exponentOf n d := by
      refine Nat.lt_of_lt_of_le (Nat.lt_log2_self (n := n / d)) ?_
      rw [← Nat.pow_add]
      exact Nat.pow_le_pow_right (by omega) (by rw [exponentOf]; omega)
    have hquotient := Nat.div_lt_of_lt_mul (Nat.mul_comm _ _ ▸ hlog)
    omega
  · intro hexponent
    have hlog : 2 ^ f.fraction * 2 ^ f.exponentOf n d ≤ n / d := by
      have hbits : f.fraction + f.exponentOf n d = (n / d).log2 := by
        rw [exponentOf] at hexponent ⊢
        omega
      have hne : n / d ≠ 0 := by
        intro h
        rw [exponentOf, h, Nat.log2_zero] at hexponent
        omega
      rw [← Nat.pow_add, hbits]
      exact Nat.log2_self_le hne
    exact ((Nat.le_div_iff_mul_le hpos).mpr hlog).trans hlow

theorem nearest_mono {m n : Nat} (h : m ≤ n) (den : Nat) : f.nearest m den ≤ f.nearest n den := by
  have hunits : m <<< f.scale ≤ n <<< f.scale := by
    simpa only [Nat.shiftLeft_eq] using Nat.mul_le_mul_right _ h
  rw [nearest_eq, nearest_eq]
  refine min_le_min_left _ ?_
  generalize m <<< f.scale = m, n <<< f.scale = n at hunits
  have hexponents : f.exponentOf m den ≤ f.exponentOf n den :=
    Nat.sub_le_sub_right (log2_mono (Nat.div_le_div_right hunits)) _
  rcases hexponents.lt_or_eq with hlt | heq
  · -- A carry of the smaller number reaches no further than where the larger one's exponent begins.
    have hm := (f.significand_bounds m den).1
    have hn := (f.significand_bounds n den).2 (by omega)
    calc f.exponentOf m den * 2 ^ f.fraction + roundHalfEven m (den * 2 ^ f.exponentOf m den)
        ≤ f.exponentOf m den * 2 ^ f.fraction + 2 ^ (f.fraction + 1) := Nat.add_le_add_left hm _
      _ = (f.exponentOf m den + 1) * 2 ^ f.fraction + 2 ^ f.fraction := by ring
      _ ≤ f.exponentOf n den * 2 ^ f.fraction + roundHalfEven n (den * 2 ^ f.exponentOf n den) :=
          Nat.add_le_add (Nat.mul_le_mul_right _ hlt) hn
  · rw [heq]
    exact Nat.add_le_add_left (roundHalfEven_mono hunits _) _

theorem nearest_le_infinity (num den : Nat) : f.nearest num den ≤ f.infinity := min_le_left _ _

end BinaryFormat

namespace Double

/-! ## Places on the number line -/

theorem isNegative_of_position_pos {x : Double} (h : 0 < x.position) : x.isNegative = false := by
  rw [← Bool.not_eq_true]
  intro hnegative
  rw [position, if_pos hnegative] at h
  omega

/-- A place behind zero has one double. -/
theorem eq_iff_of_position_pos {x y : Double} (hnumber : y.isNaN = false) (hpos : 0 < y.position) :
    Double.eq x y = true ↔ x = y := by
  constructor
  · intro h
    simp only [Double.eq, Bool.and_eq_true, beq_iff_eq] at h
    have hx := isNegative_of_position_pos (h.2 ▸ hpos)
    have hy := isNegative_of_position_pos hpos
    have hunits : x.units = y.units := by
      have hposition := h.2
      simpa [position, hx, hy] using hposition
    exact ext_magnitude (BinaryFormat.double.units_injective hunits) (hx.trans hy.symm)
  · rintro rfl
    simp [Double.eq, hnumber]

/-! ## The first number past 64 bits with a sign -/

theorem magnitude_ofInt (i : Int) : (ofInt i).magnitude = BinaryFormat.double.nearest i.natAbs 1 := by
  have hbits : BinaryFormat.double.nearest i.natAbs 1 < 0x8000000000000000 :=
    (BinaryFormat.double.nearest_le_infinity _ _).trans_lt (by decide)
  rw [ofInt, ofQuotient, magnitude_ofMagnitude _ hbits]

theorem isNegative_ofInt (i : Int) : (ofInt i).isNegative = decide (i < 0) := by
  have hbits : BinaryFormat.double.nearest i.natAbs 1 < 0x8000000000000000 :=
    (BinaryFormat.double.nearest_le_infinity _ _).trans_lt (by decide)
  rw [ofInt, ofQuotient, isNegative_ofMagnitude _ hbits]

/-- The naturals whose nearest double is `2 ^ 63`: half a step below it, where steps are shorter, and half a step
above. -/
theorem nearest_eq_int64Bound_iff (n : Nat) :
    BinaryFormat.double.nearest n 1 = BinaryFormat.double.nearest 0x8000000000000000 1 ↔
      0x8000000000000000 - 512 ≤ n ∧ n ≤ 0x8000000000000000 + 1024 := by
  have hmono {m n : Nat} (h : m ≤ n) := BinaryFormat.double.nearest_mono h 1
  have hbelow : BinaryFormat.double.nearest (0x8000000000000000 - 513) 1 <
      BinaryFormat.double.nearest 0x8000000000000000 1 := by decide +kernel
  have hfirst : BinaryFormat.double.nearest (0x8000000000000000 - 512) 1 =
      BinaryFormat.double.nearest 0x8000000000000000 1 := by decide +kernel
  have hlast : BinaryFormat.double.nearest (0x8000000000000000 + 1024) 1 =
      BinaryFormat.double.nearest 0x8000000000000000 1 := by decide +kernel
  have habove : BinaryFormat.double.nearest 0x8000000000000000 1 <
      BinaryFormat.double.nearest (0x8000000000000000 + 1025) 1 := by decide +kernel
  constructor
  · intro h
    constructor
    · by_contra hn
      have := hmono (show n ≤ 0x8000000000000000 - 513 by omega)
      omega
    · by_contra hn
      have := hmono (show 0x8000000000000000 + 1025 ≤ n by omega)
      omega
  · rintro ⟨hlow, hhigh⟩
    have := hmono hlow
    have := hmono hhigh
    omega

theorem ofInt_eq_int64Bound_iff (i : Int) :
    ofInt i = ofInt int64Bound ↔ int64Bound - 512 ≤ i ∧ i ≤ int64Bound + 1024 := by
  have hnearest := nearest_eq_int64Bound_iff i.natAbs
  have hbound : int64Bound = 0x8000000000000000 := rfl
  constructor
  · intro h
    have hmagnitude := congrArg magnitude h
    have hsign := congrArg isNegative h
    rw [magnitude_ofInt, magnitude_ofInt] at hmagnitude
    rw [isNegative_ofInt, isNegative_ofInt, decide_eq_decide] at hsign
    have hends := hnearest.mp hmagnitude
    omega
  · intro hends
    have hmagnitude := hnearest.mpr (by omega)
    refine ext_magnitude ?_ ?_
    · rw [magnitude_ofInt, magnitude_ofInt, hmagnitude]
      rfl
    · rw [isNegative_ofInt, isNegative_ofInt, decide_eq_decide]
      omega

end Double

namespace Json.Number

/-- The numbers whose nearest double is the first number past 64 bits with a sign. -/
def MeetsBound : Number → Prop
  | integer i => int64Bound - 512 ≤ i ∧ i ≤ int64Bound + 1024
  | float x => x = Double.ofInt int64Bound

theorem eq_int64Bound_iff (n : Number) : Double.eq n.double (Double.ofInt int64Bound) = true ↔ n.MeetsBound := by
  rw [Double.eq_iff_of_position_pos (by decide +kernel) (by decide +kernel)]
  cases n with
  | integer i => exact Double.ofInt_eq_int64Bound_iff i
  | float x => exact Iff.rfl

end Json.Number

end Docstore
