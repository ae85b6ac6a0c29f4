import Docstore.Wire.Cell
import Mathlib.Data.List.Induction

/-!
# Numbers as bytes

Bytes are the digits of one natural (`ofNat_toNat`, `toNat_ofNat_of_lt`), and with complements for negative numbers
those of one integer (`ofInt_toInt`, `toInt_ofInt`), so whatever fits a width is read as it was written.
-/

namespace Docstore.Wire

/-! ## Naturals -/

theorem span_pos (width : Nat) : 0 < span width := by
  induction width with
  | zero => exact Nat.one_pos
  | succ width ih => exact Nat.mul_pos (by decide) ih

theorem toNat_lt (bs : Bytes) : toNat bs < span bs.length := by
  induction bs using List.reverseRecOn with
  | nil => exact Nat.one_pos
  | append_singleton bs b ih =>
      have hb := b.toNat_lt
      rw [toNat_append_singleton, List.length_append, List.length_singleton, span]
      omega

theorem ofNat_toNat (bs : Bytes) : ofNat bs.length (toNat bs) = bs := by
  induction bs using List.reverseRecOn with
  | nil => rfl
  | append_singleton bs b ih =>
      have hb := b.toNat_lt
      have hdiv : (toNat bs * 256 + b.toNat) / 256 = toNat bs := by omega
      have hmod : (toNat bs * 256 + b.toNat) % 256 = b.toNat := by omega
      rw [toNat_append_singleton, List.length_append, List.length_singleton, ofNat, hdiv, hmod, ih, UInt8.ofNat_toNat]

theorem toNat_ofNat_of_lt {width n : Nat} (h : n < span width) : toNat (ofNat width n) = n := by
  rw [toNat_ofNat, Nat.mod_eq_of_lt h]

/-! ## Integers -/

@[simp] theorem length_ofInt (width : Nat) (i : Int) : (ofInt width i).length = width := length_ofNat _ _

/-- The integers that a width has bytes for. -/
def Fits (width : Nat) (i : Int) : Prop := -span width ≤ 2 * i ∧ 2 * i < span width

instance (width : Nat) (i : Int) : Decidable (Fits width i) :=
  inferInstanceAs (Decidable (_ ∧ _))

theorem toInt_ofInt {width : Nat} {i : Int} (h : Fits width i) : toInt (ofInt width i) = i := by
  obtain ⟨hlow, hhigh⟩ := h
  have hpos : (0 : Int) < span width := Int.natCast_pos.mpr (span_pos width)
  have hlt := Int.emod_lt_of_pos i hpos
  have hnonneg := Int.emod_nonneg i (Int.ne_of_gt hpos)
  have hnat : toNat (ofInt width i) = (i % span width).toNat :=
    toNat_ofNat_of_lt (by omega)
  rw [toInt, hnat, length_ofInt, Int.toNat_of_nonneg hnonneg]
  by_cases hneg : i < 0
  · have hmod : i % span width = i + span width := by
      rw [← Int.add_emod_right, Int.emod_eq_of_lt (by omega) (by omega)]
    rw [if_neg (by omega), hmod]
    omega
  · have hmod : i % span width = i := Int.emod_eq_of_lt (by omega) (by omega)
    rw [if_pos (by omega), hmod]

theorem fits_toInt (bs : Bytes) : Fits bs.length (toInt bs) := by
  have hlt := toNat_lt bs
  unfold Fits toInt
  split <;> omega

theorem ofInt_toInt (bs : Bytes) : ofInt bs.length (toInt bs) = bs := by
  have hlt := toNat_lt bs
  have hmod : toInt bs % span bs.length = toNat bs := by
    unfold toInt
    split
    · exact Int.emod_eq_of_lt (by omega) (by omega)
    · rw [Int.sub_emod_right, Int.emod_eq_of_lt (by omega) (by omega)]
  rw [ofInt, hmod, Int.toNat_natCast, ofNat_toNat]

/-- An integer is read just from the bytes that it is written as. -/
theorem int?_eq_some_iff {width : Nat} {bs : Bytes} {i : Int} :
    int? width bs = some i ↔ Fits width i ∧ bs = ofInt width i := by
  unfold int? exactly?
  constructor
  · intro h
    split at h
    · rename_i hlength
      cases h
      rw [← hlength]
      exact ⟨fits_toInt bs, (ofInt_toInt bs).symm⟩
    · cases h
  · rintro ⟨hfits, rfl⟩
    rw [if_pos (length_ofInt width i), Option.map_some, toInt_ofInt hfits]

/-- An integer is written just if it fits. -/
theorem integer_eq (width : Nat) (i : Int) : integer width i =
    if Fits width i then .ok (ofInt width i) else refuse "out of range integral type conversion attempted" := rfl

/-! ## Bytes from the front -/

theorem take?_eq_some_iff {width : Nat} {bs front rest : Bytes} :
    take? width bs = some (front, rest) ↔ front.length = width ∧ bs = front ++ rest := by
  unfold take?
  constructor
  · intro h
    split at h
    · rename_i hle
      cases h
      exact ⟨List.length_take_of_le hle, (List.take_append_drop width bs).symm⟩
    · cases h
  · rintro ⟨rfl, rfl⟩
    simp

theorem take?_eq_none_iff {width : Nat} {bs : Bytes} : take? width bs = none ↔ bs.length < width := by
  unfold take?
  split <;> simp <;> omega

theorem text?_ofText (s : String) : text? (ofText s) = some s := by
  rw [text?, ofText]
  exact dif_pos s.isValidUTF8

end Docstore.Wire
