import Docstore.Proofs.Number.Bounds
import Docstore.Proofs.Wire.Bytes

/-!
# Numbers as integers

An integer is written as it is or refused. A double that is an integer is written as the nearest one that fits, which
is another one for those out of range. Main statement: `encode_exactOrRefused`.
-/

namespace Docstore

namespace Double

variable {x : Double} {i j : Int}

/-- A finite double that equals an integer. -/
def IsInteger (x : Double) (i : Int) : Prop := x.isFinite = true ∧ x.position = i * BinaryFormat.double.one

theorem IsInteger.unique (hi : x.IsInteger i) (hj : x.IsInteger j) : i = j := by
  have hone : (BinaryFormat.double.one : Int) ≠ 0 := Int.natCast_ne_zero.mpr BinaryFormat.double.one_pos.ne'
  exact Int.eq_of_mul_eq_mul_right hone (hi.2.symm.trans hj.2)

theorem isInteger_truncate (h : x.isWhole = true) : x.IsInteger x.truncate :=
  ⟨(Bool.and_eq_true_iff.mp h).1, position_of_isWhole h⟩

theorem IsInteger.isWhole (h : x.IsInteger i) : x.isWhole = true := by
  have hunits : x.units = i.natAbs * BinaryFormat.double.one := by
    rw [← natAbs_position, h.2, Int.natAbs_mul, Int.natAbs_natCast]
  rw [Double.isWhole, h.1, hunits, Nat.mul_mod_left]
  rfl

theorem isInteger_ofInt (h : IsExact i) : (ofInt i).IsInteger i := ⟨(ofInt_exact h).1, position_ofInt h⟩

/-- The first integer behind the exact ones is exact as well. -/
theorem isInteger_ofInt_of_le (h : i.natAbs ≤ 2 ^ 53) : (ofInt i).IsInteger i := by
  rcases Nat.lt_or_eq_of_le h with hlt | heq
  · exact isInteger_ofInt hlt
  · rcases Int.natAbs_eq i with hi | hi <;> rw [hi, heq] <;> exact ⟨by decide +kernel, by decide +kernel⟩

theorem IsInteger.truncate_eq (h : x.IsInteger i) : x.truncate = i := (isInteger_truncate h.isWhole).unique h

theorem IsInteger.clamp_eq {lo hi : Int} (h : x.IsInteger i) (hlo : lo ≤ i) (hhi : i ≤ hi) : x.clamp lo hi = i := by
  rw [clamp, isNaN_of_isFinite h.1, h.truncate_eq]
  simp [hlo, hhi]

end Double

/-- A value that equals an integer. -/
inductive Value.IsInteger : Value → Int → Prop
  | integer (i : Int) : IsInteger (.integer i) i
  | number {x : Double} {i : Int} (h : x.IsInteger i) : IsInteger (.number x) i

namespace Wire

variable {type : DataType} {width : Nat} {v : Value} {x : Double} {i : Int}

/-- The widths of the types of integers. -/
def DataType.integerWidth? : DataType → Option Nat
  | int2 => some 2
  | int4 => some 4
  | int8 => some 8
  | _ => none

/-! ## The nearest integer of a width -/

/-- An integer, or the bound that it is beyond. -/
def nearestFit (width : Nat) (i : Int) : Int := max (-(span width / 2)) (min (span width / 2 - 1) i)

theorem two_dvd_span (hwidth : type.integerWidth? = some width) : 2 ∣ span width := by
  cases type <;> cases hwidth <;> decide

theorem fits_nearestFit (hwidth : type.integerWidth? = some width) (i : Int) : Fits width (nearestFit width i) := by
  have heven := two_dvd_span hwidth
  have hpos := span_pos width
  unfold Fits nearestFit
  omega

theorem nearestFit_eq_self (hwidth : type.integerWidth? = some width) (h : Fits width i) : nearestFit width i = i := by
  have heven := two_dvd_span hwidth
  obtain ⟨hlow, hhigh⟩ := h
  unfold nearestFit
  omega

theorem wholeNumber_of_isInteger (h : x.IsInteger i) :
    wholeNumber width x = .ok (ofInt width (nearestFit width i)) := by
  have htruncate := (Double.isInteger_truncate h.isWhole).unique h
  have hnumber := Bool.eq_false_iff.mp (Double.isNaN_of_isFinite h.1)
  rw [wholeNumber, if_pos h.isWhole, Double.clamp, if_neg hnumber, htruncate, nearestFit]

theorem wholeNumber_of_not_isInteger (h : ∀ i, ¬ x.IsInteger i) :
    wholeNumber width x = refuse (FloatText.sql.write x ++ " is not an integer") :=
  if_neg fun hwhole => h _ (Double.isInteger_truncate hwhole)

/-! ## Values -/

/-- A conversion that fails with its reason. -/
def IsRefused {α : Type} (r : Result α) : Prop := ∃ reason, r = refuse reason

/-- A value is refused, or written as bytes that are read as the integer that it equals. -/
def ExactOrRefused (width : Nat) (v : Value) (r : Result (Option Bytes)) : Prop :=
  IsRefused r ∨ ∃ i bs, v.IsInteger i ∧ r = .ok (some bs) ∧ int? width bs = some i

theorem exactOrRefused_written_iff {bs : Bytes} :
    ExactOrRefused width v (.ok (some bs)) ↔ ∃ i, v.IsInteger i ∧ int? width bs = some i := by
  constructor
  · rintro (⟨reason, hreason⟩ | ⟨i, bs', hv, hbs, hread⟩)
    · cases hreason
    · cases hbs
      exact ⟨i, hv, hread⟩
  · rintro ⟨i, hv, hread⟩
    exact .inr ⟨i, bs, hv, rfl, hread⟩

theorem not_isRefused_written {bs : Bytes} : ¬ IsRefused (.ok (some bs)) := nofun

theorem encode_integer (hwidth : type.integerWidth? = some width) (i : Int) : encode type (.integer i) =
    if Fits width i then .ok (some (ofInt width i)) else refuse "out of range integral type conversion attempted" := by
  have hinteger : encode type (.integer i) = (integer width i).map some := by
    cases type <;> cases hwidth <;> rfl
  rw [hinteger, integer_eq]
  split <;> rfl

theorem encode_number (hwidth : type.integerWidth? = some width) (x : Double) :
    encode type (.number x) = (wholeNumber width x).map some := by
  cases type <;> cases hwidth <;> rfl

theorem encode_of_isInteger (hwidth : type.integerWidth? = some width) (h : x.IsInteger i) :
    encode type (.number x) = .ok (some (ofInt width (nearestFit width i))) := by
  rw [encode_number hwidth, wholeNumber_of_isInteger h]
  rfl

theorem isRefused_integer_iff (hwidth : type.integerWidth? = some width) (i : Int) :
    IsRefused (encode type (.integer i)) ↔ ¬ Fits width i := by
  rw [encode_integer hwidth]
  split
  case isTrue hfits => exact iff_of_false not_isRefused_written (not_not_intro hfits)
  case isFalse hfits => exact iff_of_true ⟨_, rfl⟩ hfits

theorem exactOrRefused_integer (hwidth : type.integerWidth? = some width) (i : Int) :
    ExactOrRefused width (.integer i) (encode type (.integer i)) := by
  rw [encode_integer hwidth]
  split
  case isTrue hfits =>
    exact exactOrRefused_written_iff.mpr ⟨i, .integer i, int?_eq_some_iff.mpr ⟨hfits, rfl⟩⟩
  case isFalse => exact .inl ⟨_, rfl⟩

theorem isRefused_number_iff (hwidth : type.integerWidth? = some width) (x : Double) :
    IsRefused (encode type (.number x)) ↔ ∀ i, ¬ x.IsInteger i := by
  constructor
  · intro h i hx
    exact not_isRefused_written (encode_of_isInteger hwidth hx ▸ h)
  · intro h
    rw [encode_number hwidth, wholeNumber_of_not_isInteger h]
    exact ⟨_, rfl⟩

theorem exactOrRefused_number_iff (hwidth : type.integerWidth? = some width) (x : Double) :
    ExactOrRefused width (.number x) (encode type (.number x)) ↔ ∀ i, x.IsInteger i → Fits width i := by
  constructor
  · intro h i hx
    rw [encode_of_isInteger hwidth hx] at h
    obtain ⟨j, hj, hread⟩ := exactOrRefused_written_iff.mp h
    cases hj with
    | number hj => exact hj.unique hx ▸ (int?_eq_some_iff.mp hread).1
  · intro h
    by_cases hx : ∃ i, x.IsInteger i
    · obtain ⟨i, hi⟩ := hx
      rw [encode_of_isInteger hwidth hi, nearestFit_eq_self hwidth (h i hi)]
      exact exactOrRefused_written_iff.mpr ⟨i, .number hi, int?_eq_some_iff.mpr ⟨h i hi, rfl⟩⟩
    · exact .inl ((isRefused_number_iff hwidth x).mpr (not_exists.mp hx))

/-- Integers are written as they are, and those out of range are refused. Doubles that are no integers are refused.
Those that are one are written as the nearest integer of the width, so those out of range as another number. -/
theorem encode_exactOrRefused (hwidth : type.integerWidth? = some width) :
    (∀ i, ExactOrRefused width (.integer i) (encode type (.integer i)) ∧
      (IsRefused (encode type (.integer i)) ↔ ¬ Fits width i)) ∧
    ∀ x, (ExactOrRefused width (.number x) (encode type (.number x)) ↔ ∀ i, x.IsInteger i → Fits width i) ∧
      (IsRefused (encode type (.number x)) ↔ ∀ i, ¬ x.IsInteger i) ∧
      ∀ i, x.IsInteger i → encode type (.number x) = .ok (some (ofInt width (nearestFit width i))) ∧
        Fits width (nearestFit width i) :=
  ⟨fun i => ⟨exactOrRefused_integer hwidth i, isRefused_integer_iff hwidth i⟩,
    fun x => ⟨exactOrRefused_number_iff hwidth x, isRefused_number_iff hwidth x,
      fun i hx => ⟨encode_of_isInteger hwidth hx, fits_nearestFit hwidth i⟩⟩⟩

theorem encode_exactOrRefused_int4 : IsRefused (encode .int4 (.integer 2147483648)) ∧
    encode .int4 (.number (Double.ofInt (-7))) = .ok (some [0xff, 0xff, 0xff, 0xf9]) := by
  have hexact : Double.IsExact (-7) := by
    unfold Double.IsExact
    decide
  have hwidth : DataType.int4.integerWidth? = some 4 := rfl
  obtain ⟨hintegers, hnumbers⟩ := encode_exactOrRefused hwidth
  exact ⟨(hintegers _).2.mpr (by decide), ((hnumbers _).2.2 _ (Double.isInteger_ofInt hexact)).1⟩

/-- The number 10 ^ 10 is written as the greatest integer of four bytes. -/
theorem not_exactOrRefused_int4 :
    encode .int4 (.number (Double.ofInt 10000000000)) = .ok (some [0x7f, 0xff, 0xff, 0xff]) ∧
      ¬ ExactOrRefused 4 (.number (Double.ofInt 10000000000)) (encode .int4 (.number (Double.ofInt 10000000000))) := by
  have hexact : Double.IsExact 10000000000 := by
    unfold Double.IsExact
    decide
  have hinteger := Double.isInteger_ofInt hexact
  have hwidth : DataType.int4.integerWidth? = some 4 := rfl
  refine ⟨encode_of_isInteger hwidth hinteger, fun h => ?_⟩
  exact absurd ((exactOrRefused_number_iff hwidth _).mp h _ hinteger) (by decide)

end Wire

end Docstore
