import Docstore.Encoding
import Mathlib.Tactic.Ring

/-!
# Exact numbers

Which numbers come through a double as they are. A natural that the fraction of a format has room for is a number
of the format, so integers of less than 54 bits are doubles (`ofInt_exact`). A number is canonical when it is such
an integer, or a double that is no integer: its double is written as the number it was (`number_double`), and
different canonical numbers are different places on the number line (`eq_of_double_eq`).
-/

namespace Docstore

/-! ## Formats -/

theorem roundHalfEven_mul (n : Nat) {d : Nat} (hd : 0 < d) : roundHalfEven (n * d) d = n := by
  simp [roundHalfEven, Nat.mul_div_cancel _ hd, hd]

theorem log2_mul_two_pow {n : Nat} (hn : 0 < n) (e : Nat) : (n * 2 ^ e).log2 = n.log2 + e := by
  rw [Nat.log2_eq_iff (Nat.mul_pos hn (Nat.two_pow_pos e)).ne', Nat.add_right_comm, Nat.pow_add, Nat.pow_add]
  exact ⟨Nat.mul_le_mul_right _ (Nat.log2_self_le hn.ne'),
    Nat.mul_lt_mul_of_pos_right Nat.lt_log2_self (Nat.two_pow_pos e)⟩

namespace BinaryFormat

variable (f : BinaryFormat)

theorem one_eq : f.one = 2 ^ f.scale := Nat.one_shiftLeft _

theorem one_pos : 0 < f.one := by
  rw [one_eq]
  exact Nat.two_pow_pos _

theorem infinity_eq : f.infinity = (2 ^ f.exponent - 1) * 2 ^ f.fraction := by
  rw [infinity, Nat.shiftLeft_eq, Nat.one_shiftLeft]

/-- A number with an exponent: a significand of one bit more than the fraction, times a power of two. -/
theorem units_normal (e : Nat) {q : Nat} (hlow : 2 ^ f.fraction ≤ q) (hhigh : q < 2 ^ (f.fraction + 1)) :
    f.units (e * 2 ^ f.fraction + q) = q * 2 ^ e := by
  have hpos : 0 < 2 ^ f.fraction := Nat.two_pow_pos _
  obtain ⟨m, rfl⟩ := Nat.exists_eq_add_of_le hlow
  have hm : m < 2 ^ f.fraction := by
    rw [Nat.pow_succ] at hhigh
    omega
  have hbits : e * 2 ^ f.fraction + (2 ^ f.fraction + m) = m + 2 ^ f.fraction * (e + 1) := by ring
  have hexponent : (m + 2 ^ f.fraction * (e + 1)) / 2 ^ f.fraction = e + 1 := by
    rw [Nat.add_mul_div_left _ _ hpos, Nat.div_eq_of_lt hm, Nat.zero_add]
  have hfraction : (m + 2 ^ f.fraction * (e + 1)) % 2 ^ f.fraction = m := by
    rw [Nat.add_mul_mod_self_left, Nat.mod_eq_of_lt hm]
  rw [hbits, units]
  simp only [Nat.shiftRight_eq_div_pow, Nat.shiftLeft_eq, Nat.one_mul, hexponent, hfraction,
    Nat.add_one_ne_zero, ite_false, Nat.add_sub_cancel]

theorem log2_normal (e : Nat) {q : Nat} (hlow : 2 ^ f.fraction ≤ q) (hhigh : q < 2 ^ (f.fraction + 1)) :
    (q * 2 ^ e).log2 = f.fraction + e := by
  have hq : 0 < q := Nat.lt_of_lt_of_le (Nat.two_pow_pos _) hlow
  rw [log2_mul_two_pow hq, (Nat.log2_eq_iff hq.ne').mpr ⟨hlow, hhigh⟩]

/-- A number without an exponent is its bits. -/
theorem units_subnormal {m : Nat} (h : m < 2 ^ f.fraction) : f.units m = m := by
  have hexponent : m / 2 ^ f.fraction = 0 := Nat.div_eq_of_lt h
  rw [units]
  simp only [Nat.shiftRight_eq_div_pow, Nat.one_shiftLeft, hexponent, ite_true, Nat.mod_eq_of_lt h]

/-- All magnitude bits are a fraction alone, or a significand with an exponent. -/
theorem bits_cases (bits : Nat) :
    bits < 2 ^ f.fraction ∨
      ∃ e q, bits = e * 2 ^ f.fraction + q ∧ 2 ^ f.fraction ≤ q ∧ q < 2 ^ (f.fraction + 1) := by
  have hpos : 0 < 2 ^ f.fraction := Nat.two_pow_pos _
  rcases Nat.lt_or_ge bits (2 ^ f.fraction) with h | h
  · exact .inl h
  · have hmod := Nat.mod_lt bits hpos
    have hdiv := Nat.div_add_mod bits (2 ^ f.fraction)
    obtain ⟨e, he⟩ : ∃ e, bits / 2 ^ f.fraction = e + 1 :=
      Nat.exists_eq_add_one.mpr (Nat.div_pos h hpos)
    refine .inr ⟨e, 2 ^ f.fraction + bits % 2 ^ f.fraction, ?_, by omega, by rw [Nat.pow_succ]; omega⟩
    rw [he, Nat.mul_comm, Nat.add_mul] at hdiv
    omega

/-- Numbers of one size have the same bits. -/
theorem units_injective {a b : Nat} (h : f.units a = f.units b) : a = b := by
  have hsize {e q : Nat} (hlow : 2 ^ f.fraction ≤ q) : 2 ^ f.fraction ≤ q * 2 ^ e :=
    Nat.le_trans hlow (Nat.le_mul_of_pos_right q (Nat.two_pow_pos e))
  rcases f.bits_cases a with ha | ⟨e, q, rfl, hq, hq'⟩
  · rw [f.units_subnormal ha] at h
    rcases f.bits_cases b with hb | ⟨e', q', rfl, hr, hr'⟩
    · rwa [f.units_subnormal hb] at h
    · rw [f.units_normal e' hr hr'] at h
      have := hsize (e := e') hr
      omega
  · rw [f.units_normal e hq hq'] at h
    rcases f.bits_cases b with hb | ⟨e', q', rfl, hr, hr'⟩
    · rw [f.units_subnormal hb] at h
      have := hsize (e := e) hq
      omega
    · rw [f.units_normal e' hr hr'] at h
      -- The number of bits of the product gives the exponent.
      have he : e = e' := by
        have hlogs := congrArg Nat.log2 h
        rw [f.log2_normal e hq hq', f.log2_normal e' hr hr'] at hlogs
        omega
      subst he
      rw [Nat.eq_of_mul_eq_mul_right (Nat.two_pow_pos e) h]

/-- A number of the format is the nearest to itself. -/
theorem nearest_units {bits : Nat} (h : bits < f.infinity) : f.nearest (f.units bits) f.one = bits := by
  have hone : 0 < 2 ^ f.scale := Nat.two_pow_pos _
  rw [nearest, one_eq]
  simp only [Nat.shiftLeft_eq, Nat.mul_div_cancel _ hone]
  rcases f.bits_cases bits with hlow | ⟨e, q, rfl, hq, hq'⟩
  · have hlog : bits.log2 - f.fraction = 0 := by
      rcases Nat.eq_zero_or_pos bits with rfl | hpos
      · simp
      · exact Nat.sub_eq_zero_of_le ((Nat.log2_lt hpos.ne').mpr hlow).le
    rw [f.units_subnormal hlow, hlog, Nat.pow_zero, Nat.mul_one, roundHalfEven_mul _ hone, Nat.zero_mul, Nat.zero_add]
    exact Nat.min_eq_right h.le
  · have hround : q * 2 ^ e * 2 ^ f.scale = q * (2 ^ f.scale * 2 ^ e) := by ring
    rw [f.units_normal e hq hq', f.log2_normal e hq hq', Nat.add_sub_cancel_left, hround,
      roundHalfEven_mul _ (Nat.mul_pos hone (Nat.two_pow_pos e))]
    exact Nat.min_eq_right h.le

theorem nearest_zero : f.nearest 0 1 = 0 := by
  simp [nearest, roundHalfEven]

/-- A natural that has at most one bit more than the fraction is met exactly. -/
theorem nearest_natural {n : Nat} (h : n < 2 ^ (f.fraction + 1)) (hscale : f.fraction ≤ f.scale)
    (hrange : f.scale + 2 < 2 ^ f.exponent) :
    f.units (f.nearest n 1) = n * f.one ∧ f.nearest n 1 < f.infinity := by
  rcases Nat.eq_zero_or_pos n with rfl | hn
  · rw [nearest_zero, f.units_subnormal (Nat.two_pow_pos _), infinity_eq, Nat.zero_mul]
    exact ⟨rfl, Nat.mul_pos (by omega) (Nat.two_pow_pos _)⟩
  have hlow := Nat.log2_self_le hn.ne'
  have hhigh := Nat.lt_log2_self (n := n)
  have hbits : n.log2 ≤ f.fraction := Nat.lt_succ_iff.mp ((Nat.log2_lt hn.ne').mpr h)
  -- The significand is `n` moved up to the width of the fraction.
  obtain ⟨k, hk⟩ : ∃ k, k = n.log2 + f.scale - f.fraction := ⟨_, rfl⟩
  obtain ⟨q, hq⟩ : ∃ q, q = n * 2 ^ (f.fraction - n.log2) := ⟨_, rfl⟩
  have hunits : n * 2 ^ f.scale = q * 2 ^ k := by
    rw [hq, Nat.mul_assoc, ← Nat.pow_add]
    congr 2
    omega
  have hq1 : 2 ^ f.fraction ≤ q := by
    have hsplit : f.fraction = n.log2 + (f.fraction - n.log2) := by omega
    rw [hq]
    calc 2 ^ f.fraction = 2 ^ n.log2 * 2 ^ (f.fraction - n.log2) := by rw [← Nat.pow_add, ← hsplit]
      _ ≤ n * 2 ^ (f.fraction - n.log2) := Nat.mul_le_mul_right _ hlow
  have hq2 : q < 2 ^ (f.fraction + 1) := by
    have hsplit : f.fraction + 1 = n.log2 + 1 + (f.fraction - n.log2) := by omega
    rw [hq]
    calc n * 2 ^ (f.fraction - n.log2) < 2 ^ (n.log2 + 1) * 2 ^ (f.fraction - n.log2) :=
          Nat.mul_lt_mul_of_pos_right hhigh (Nat.two_pow_pos _)
      _ = 2 ^ (f.fraction + 1) := by rw [← Nat.pow_add, ← hsplit]
  have hexponent : (q * 2 ^ k).log2 - f.fraction = k := by
    rw [← hunits, log2_mul_two_pow hn, hk]
  have hsmall : k * 2 ^ f.fraction + q < f.infinity := by
    rw [infinity_eq]
    calc k * 2 ^ f.fraction + q < k * 2 ^ f.fraction + 2 ^ (f.fraction + 1) := by omega
      _ = (k + 2) * 2 ^ f.fraction := by ring
      _ ≤ (2 ^ f.exponent - 1) * 2 ^ f.fraction := Nat.mul_le_mul_right _ (by omega)
  have hnearest : f.nearest n 1 = k * 2 ^ f.fraction + q := by
    simp only [nearest, Nat.shiftLeft_eq, Nat.div_one, Nat.one_mul, hunits, hexponent,
      roundHalfEven_mul q (Nat.two_pow_pos k)]
    exact Nat.min_eq_right hsmall.le
  rw [hnearest, f.units_normal k hq1 hq2, one_eq, hunits]
  exact ⟨rfl, hsmall⟩

end BinaryFormat

/-! ## Doubles -/

namespace Double

theorem isNegative_iff (x : Double) : x.isNegative = decide (0x8000000000000000 ≤ x.bits.toNat) := by
  have hlt := x.bits.toNat_lt
  rw [isNegative, beq_eq_decide, decide_eq_decide, ← UInt64.toNat_inj, UInt64.toNat_shiftRight]
  simp only [UInt64.reduceToNat, Nat.reduceMod, Nat.shiftRight_eq_div_pow]
  omega

theorem ext_magnitude {x y : Double} (hm : x.magnitude = y.magnitude) (hs : x.isNegative = y.isNegative) :
    x = y := by
  have hx := x.bits.toNat_lt
  have hy := y.bits.toNat_lt
  rw [isNegative_iff, isNegative_iff, decide_eq_decide] at hs
  rw [magnitude, magnitude] at hm
  have hbits : x.bits.toNat = y.bits.toNat := by omega
  cases x
  cases y
  exact congrArg Double.mk (UInt64.toNat_inj.mp hbits)

section

variable (negative : Bool) {bits : Nat} (h : bits < 0x8000000000000000)

include h

theorem toNat_ofMagnitude :
    (ofMagnitude negative bits).bits.toNat = bits + if negative then 0x8000000000000000 else 0 := by
  rw [ofMagnitude, UInt64.toNat_ofNat']
  cases negative <;> simp <;> omega

theorem magnitude_ofMagnitude : (ofMagnitude negative bits).magnitude = bits := by
  rw [magnitude, toNat_ofMagnitude negative h]
  cases negative <;> simp <;> omega

theorem isNegative_ofMagnitude : (ofMagnitude negative bits).isNegative = negative := by
  rw [isNegative_iff, toNat_ofMagnitude negative h]
  cases negative <;> simp
  omega

end

theorem isNaN_of_isFinite {x : Double} (h : x.isFinite = true) : x.isNaN = false := by
  simp only [isFinite, decide_eq_true_eq] at h
  simp only [isNaN, decide_eq_false_iff_not]
  omega

/-! ## Integers -/

/-- Integers whose magnitude has at most 53 bits. -/
def IsExact (i : Int) : Prop := i.natAbs < 0x20000000000000

variable {i : Int}

theorem ofInt_exact (h : IsExact i) :
    (ofInt i).isFinite = true ∧ (ofInt i).isNegative = decide (i < 0) ∧
      (ofInt i).units = i.natAbs * BinaryFormat.double.one := by
  obtain ⟨hunits, hfinite⟩ := BinaryFormat.double.nearest_natural (n := i.natAbs) h (by decide) (by decide)
  have hbits : BinaryFormat.double.nearest i.natAbs 1 < 0x8000000000000000 :=
    Nat.lt_trans hfinite (by decide)
  refine ⟨?_, isNegative_ofMagnitude _ hbits, ?_⟩
  · rw [isFinite, ofInt, ofQuotient, magnitude_ofMagnitude _ hbits, decide_eq_true_eq]
    exact hfinite
  · rw [units, ofInt, ofQuotient, magnitude_ofMagnitude _ hbits, hunits]

theorem isWhole_ofInt (h : IsExact i) : (ofInt i).isWhole = true := by
  obtain ⟨hfinite, -, hunits⟩ := ofInt_exact h
  rw [isWhole, hfinite, hunits, Nat.mul_mod_left]
  rfl

theorem truncate_ofInt (h : IsExact i) : (ofInt i).truncate = i := by
  obtain ⟨-, hnegative, hunits⟩ := ofInt_exact h
  simp only [truncate, hnegative, hunits, Nat.mul_div_cancel _ BinaryFormat.double.one_pos, decide_eq_true_eq]
  split <;> omega

end Double

/-! ## Canonical numbers -/

namespace Json.Number

/-- The nearest double. -/
def double : Number → Double
  | integer i => Double.ofInt i
  | float x => x

/-- An integer that a double holds exactly, or a double that is no integer. -/
def IsCanonical : Number → Prop
  | integer i => Double.IsExact i
  | float x => x.isFinite = true ∧ x.isWhole = false

theorem double?_number (n : Number) : (Json.number n).double? = some n.double := by
  cases n <;> rfl

variable {m n : Number}

theorem IsCanonical.isFinite (h : n.IsCanonical) : n.double.isFinite = true := by
  cases n with
  | integer i => exact (Double.ofInt_exact h).1
  | float x => exact h.1

/-- A canonical number is written as it was. -/
theorem IsCanonical.number_double (h : n.IsCanonical) : Encoding.number n.double = .number n := by
  cases n with
  | integer i =>
      have hbound : ((Double.ofInt i).truncate.natAbs : Int) < Encoding.integerBound := by
        rw [Double.truncate_ofInt h, Encoding.integerBound]
        exact Int.ofNat_lt.mpr h
      rw [double, Encoding.number, Double.isWhole_ofInt h, decide_eq_true hbound, Double.truncate_ofInt h]
      rfl
  | float x =>
      rw [double, Encoding.number, h.2, h.1]
      rfl

theorem IsCanonical.double_inj (hm : m.IsCanonical) (hn : n.IsCanonical) (h : m.double = n.double) : m = n := by
  have hnumber := hm.number_double
  rw [h, hn.number_double] at hnumber
  exact (Json.number.inj hnumber).symm

/-- There is one canonical zero. -/
theorem IsCanonical.double_eq_zero (h : n.IsCanonical) (hunits : n.double.units = 0) : n.double = 0 := by
  cases n with
  | integer i =>
      obtain ⟨-, -, hi⟩ := Double.ofInt_exact h
      rw [double, hi, Nat.mul_eq_zero] at hunits
      rcases hunits with hi | hone
      · rw [Int.natAbs_eq_zero.mp hi]
        decide
      · exact absurd hone BinaryFormat.double.one_pos.ne'
  | float x =>
      have hwhole := h.2
      rw [double] at hunits
      rw [Double.isWhole, h.1, hunits, Nat.zero_mod] at hwhole
      cases hwhole

theorem IsCanonical.eq_self (h : n.IsCanonical) : Double.eq n.double n.double = true := by
  simp [Double.eq, Double.isNaN_of_isFinite h.isFinite]

/-- Canonical numbers at one place of the number line are the same number. -/
theorem IsCanonical.eq_of_double_eq (hm : m.IsCanonical) (hn : n.IsCanonical)
    (h : Double.eq m.double n.double = true) : m = n := by
  simp only [Double.eq, Double.position, Bool.and_eq_true, beq_iff_eq] at h
  have hposition := h.2
  have hzero (hx : m.double.units = 0) (hy : n.double.units = 0) : m = n :=
    hm.double_inj hn ((hm.double_eq_zero hx).trans (hn.double_eq_zero hy).symm)
  have hsame (hs : m.double.isNegative = n.double.isNegative) (hu : m.double.units = n.double.units) : m = n :=
    hm.double_inj hn (Double.ext_magnitude (BinaryFormat.double.units_injective hu) hs)
  cases hx : m.double.isNegative with
  | true =>
      cases hy : n.double.isNegative with
      | true =>
          simp only [hx, hy, if_true] at hposition
          exact hsame (hx.trans hy.symm) (by omega)
      | false =>
          simp only [hx, hy, if_true, Bool.false_eq_true, if_false] at hposition
          exact hzero (by omega) (by omega)
  | false =>
      cases hy : n.double.isNegative with
      | true =>
          simp only [hx, hy, if_true, Bool.false_eq_true, if_false] at hposition
          exact hzero (by omega) (by omega)
      | false =>
          simp only [hx, hy, Bool.false_eq_true, if_false] at hposition
          exact hsame (hx.trans hy.symm) (by omega)

end Json.Number

end Docstore
