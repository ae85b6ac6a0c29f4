import Docstore.Proofs.Number.Rounding

/-!
# Numbers within bounds

Whether a number lies between two integers is seen from its nearest double, as long as the integers are exact
(`between_iff`), and doubles that are equal lie between the same ones (`between_congr`).
-/

namespace Docstore

namespace BinaryFormat

variable (f : BinaryFormat)

theorem units_mono {a b : Nat} (h : a ≤ b) : f.units a ≤ f.units b := by
  have hpos (e : Nat) : 0 < 2 ^ e := Nat.two_pow_pos e
  rcases f.bits_cases a with ha | ⟨e, q, rfl, hq, hq'⟩
  · rw [f.units_subnormal ha]
    rcases f.bits_cases b with hb | ⟨e, q, rfl, hq, hq'⟩
    · rwa [f.units_subnormal hb]
    · rw [f.units_normal e hq hq']
      exact ha.le.trans (hq.trans (Nat.le_mul_of_pos_right q (hpos e)))
  · rcases f.bits_cases b with hb | ⟨e', r, rfl, hr, hr'⟩
    · omega
    · rw [f.units_normal e hq hq', f.units_normal e' hr hr']
      rcases Nat.lt_trichotomy e e' with hlt | rfl | hgt
      · calc q * 2 ^ e ≤ 2 ^ (f.fraction + 1) * 2 ^ e := Nat.mul_le_mul_right _ hq'.le
          _ = 2 ^ f.fraction * 2 ^ (e + 1) := by ring
          _ ≤ r * 2 ^ e' := Nat.mul_le_mul hr (Nat.pow_le_pow_right (by decide) hlt)
      · exact Nat.mul_le_mul_right _ (by omega)
      · -- The larger exponent alone is as much as all bits of the other number.
        exfalso
        have hexponents : (e' + 1) * 2 ^ f.fraction ≤ e * 2 ^ f.fraction := Nat.mul_le_mul_right _ hgt
        rw [Nat.add_mul, Nat.one_mul] at hexponents
        rw [Nat.pow_succ] at hr'
        omega

end BinaryFormat

namespace Double

variable {x y : Double}

/-! ## Places -/

theorem natAbs_position (x : Double) : x.position.natAbs = x.units := by
  unfold position
  split <;> simp

theorem position_ofInt {i : Int} (h : IsExact i) : (ofInt i).position = i * BinaryFormat.double.one := by
  obtain ⟨-, hnegative, hunits⟩ := ofInt_exact h
  rw [position, hnegative, hunits, Int.natCast_mul]
  simp only [decide_eq_true_eq]
  split
  · rw [← Int.neg_mul]
    congr 1
    omega
  · congr 1
    omega

theorem isNaN_ofInt (i : Int) : (ofInt i).isNaN = false := by
  have hle := BinaryFormat.double.nearest_le_infinity i.natAbs 1
  rw [isNaN, magnitude_ofInt, decide_eq_false_iff_not]
  omega

/-- An integer that is not exact is far away. -/
theorem units_ofInt {i : Int} (h : ¬ IsExact i) :
    (0x20000000000000 - 1) * BinaryFormat.double.one ≤ (ofInt i).units := by
  obtain ⟨hunits, -⟩ := BinaryFormat.double.nearest_natural (n := 0x20000000000000 - 1) (by decide) (by decide)
    (by decide)
  rw [units, magnitude_ofInt, ← hunits]
  exact BinaryFormat.double.units_mono (BinaryFormat.double.nearest_mono (by rw [IsExact] at h; omega) 1)

theorem eq_iff : Double.eq x y = true ↔ x.isNaN = false ∧ y.isNaN = false ∧ x.position = y.position := by
  simp [Double.eq, and_assoc]

theorem eq_self_iff : Double.eq x x = true ↔ x.isNaN = false := by
  simp [eq_iff]

theorem le_iff : le x y = true ↔ x.isNaN = false ∧ y.isNaN = false ∧ x.position ≤ y.position := by
  simp [le, and_assoc]

theorem between_congr (h : Double.eq x y = true) (lo hi : Int) : between lo hi x = between lo hi y := by
  obtain ⟨hx, hy, hposition⟩ := eq_iff.mp h
  simp only [between, le, hx, hy, hposition]

theorem between_iff {bound : Int} (h : IsExact bound) : between (-bound) bound x = true ↔
    x.isNaN = false ∧ -bound * BinaryFormat.double.one ≤ x.position ∧ x.position ≤ bound * BinaryFormat.double.one := by
  have hneg : IsExact (-bound) := by rwa [IsExact, Int.natAbs_neg]
  rw [between, Bool.and_eq_true, le_iff, le_iff, position_ofInt h, position_ofInt hneg]
  simp only [isNaN_ofInt, true_and]
  tauto

theorem position_of_isWhole (h : x.isWhole = true) : x.position = x.truncate * BinaryFormat.double.one := by
  rw [isWhole, Bool.and_eq_true, beq_iff_eq] at h
  have hunits : ((x.units / BinaryFormat.double.one : Nat) : Int) * BinaryFormat.double.one = x.units := by
    rw [← Int.natCast_mul, Nat.div_mul_cancel (Nat.dvd_of_mod_eq_zero h.2)]
  rw [position, truncate]
  split
  · rw [Int.neg_mul, hunits]
  · rw [hunits]

theorem isFinite_of_between {bound : Int} (hbound : bound.natAbs < 0x20000000000000)
    (h : between (-bound) bound x = true) : x.isFinite = true := by
  obtain ⟨hnumber, hlow, hhigh⟩ := (between_iff hbound).mp h
  by_contra hinfinite
  rw [isFinite, decide_eq_true_eq, Nat.not_lt] at hinfinite
  -- Infinity lies beyond every integer that is exact.
  have hunits := BinaryFormat.double.units_mono hinfinite
  have hinfinity : 0x20000000000000 * BinaryFormat.double.one ≤ BinaryFormat.double.units BinaryFormat.double.infinity := by
    decide +kernel
  have hone : (0 : Int) < BinaryFormat.double.one := Int.natCast_pos.mpr BinaryFormat.double.one_pos
  have hscaled : bound * BinaryFormat.double.one ≤ (0x20000000000000 - 1) * BinaryFormat.double.one :=
    Int.mul_le_mul_of_nonneg_right (by omega) hone.le
  have hplace := x.natAbs_position
  rw [Int.neg_mul] at hlow
  rw [← units] at hunits
  generalize bound * (BinaryFormat.double.one : Int) = scaled at *
  generalize BinaryFormat.double.units BinaryFormat.double.infinity = infinity at *
  omega

end Double

namespace Encoding

/-- A double is written as a number that is read as an equal one. -/
theorem exists_double?_number {x : Double} (h : x.isFinite = true) :
    ∃ y, (number x).double? = some y ∧ Double.eq y x = true := by
  have hx : x.isNaN = false := Double.isNaN_of_isFinite h
  unfold number
  split
  · rename_i hwhole
    rw [Bool.and_eq_true, decide_eq_true_eq, integerBound] at hwhole
    have hexact : Double.IsExact x.truncate := Int.ofNat_lt.mp hwhole.2
    refine ⟨Double.ofInt x.truncate, rfl, Double.eq_iff.mpr ⟨Double.isNaN_ofInt _, hx, ?_⟩⟩
    rw [Double.position_ofInt hexact, Double.position_of_isWhole hwhole.1]
  · exact ⟨x, rfl, Double.eq_self_iff.mpr hx⟩

end Encoding

namespace Json.Number

/-- Whether a number is no further from zero than a bound. -/
def IsWithin (bound : Int) : Number → Prop
  | integer i => -bound ≤ i ∧ i ≤ bound
  | float x => x.isNaN = false ∧ -bound * BinaryFormat.double.one ≤ x.position ∧
      x.position ≤ bound * BinaryFormat.double.one

theorem between_iff {bound : Int} (hbound : bound.natAbs < 0x20000000000000 - 1) (n : Number) :
    n.double.between (-bound) bound = true ↔ n.IsWithin bound := by
  rw [Double.between_iff (Nat.lt_trans hbound (by decide))]
  cases n with
  | float x => exact Iff.rfl
  | integer i =>
      have hone : (0 : Int) < BinaryFormat.double.one := Int.natCast_pos.mpr BinaryFormat.double.one_pos
      rw [double, IsWithin, Double.isNaN_ofInt]
      by_cases hexact : Double.IsExact i
      · rw [Double.position_ofInt hexact, Int.mul_le_mul_iff_of_pos_right hone, Int.mul_le_mul_iff_of_pos_right hone]
        exact ⟨fun h => h.2, fun h => ⟨rfl, h⟩⟩
      · -- The integer and its double are both beyond the bound.
        have hunits := Double.units_ofInt hexact
        have hplace := (Double.ofInt i).natAbs_position
        have hscaled : bound * BinaryFormat.double.one ≤ (0x20000000000000 - 2) * BinaryFormat.double.one :=
          Int.mul_le_mul_of_nonneg_right (by omega) hone.le
        rw [Double.IsExact] at hexact
        rw [Int.neg_mul]
        generalize bound * (BinaryFormat.double.one : Int) = scaled at *
        generalize (Double.ofInt i).units = units at *
        refine iff_of_false ?_ (by omega)
        omega

theorem IsWithin.isNaN {n : Number} {bound : Int} (hbound : bound.natAbs < 0x20000000000000 - 1)
    (h : n.IsWithin bound) : n.double.isNaN = false :=
  ((Double.between_iff (Nat.lt_trans hbound (by decide))).mp ((n.between_iff hbound).mpr h)).1

end Json.Number

end Docstore
