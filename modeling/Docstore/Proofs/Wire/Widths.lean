import Docstore.Proofs.Wire.Points

/-!
# Widths of parameters

The values of some types have one width. A value of a kind that such a type takes is written with that width or is
refused; every other value is written as its text, however long that is. Main statement: `encode_fitsWidth_iff`.
-/

namespace Docstore.Wire

namespace DataType

/-- The number of bytes that all values of a type have. -/
def width? : DataType → Option Nat
  | bool => some 1
  | int2 => some 2
  | int4 | float4 => some 4
  | int8 | float8 | timestamptz | timestamp => some 8
  | point => some 16
  | _ => none

/-- Whether a type of one width takes values of a kind, as they are or by reading their text. -/
def takes : DataType → Value → Bool
  | bool, .bool _ | bool, .string _ => true
  | int2, .integer _ | int2, .number _ => true
  | int4, .integer _ | int4, .number _ => true
  | int8, .integer _ | int8, .number _ => true
  | float4, .integer _ | float4, .number _ => true
  | float8, .integer _ | float8, .number _ | float8, .string _ => true
  | timestamptz, .timestamp _ | timestamptz, .string _ => true
  | timestamp, .timestamp _ | timestamp, .string _ => true
  | point, .point _ => true
  | _, _ => false

end DataType

/-- The text that a value is written as for types that do not take it. Lists of strings have none. -/
def fallbackText? : Value → Option String
  | .null | .strings _ => none
  | .bool b => some (boolText b)
  | .integer i => some (toString i)
  | .number x => some (Encoding.number x).print
  | .string s => some s
  | .timestamp t => some t.toIso
  | .json v => some v.print
  | .point p => some p.text
  | .polygon ps => some (Geometry.polygonText ps)

/-- Null, a refusal, or as many bytes as a width says. -/
inductive FitsWidth (width : Nat) : Result (Option Bytes) → Prop
  | null : FitsWidth width (.ok none)
  | refused (reason : String) : FitsWidth width (refuse reason)
  | written {bs : Bytes} (h : bs.length = width) : FitsWidth width (.ok (some bs))

variable {type : DataType} {width : Nat} {v : Value}

theorem fitsWidth_written_iff {bs : Bytes} : FitsWidth width (.ok (some bs)) ↔ bs.length = width :=
  ⟨fun | .written h => h, .written⟩

theorem not_fitsWidth_crash : ¬ FitsWidth width (.error .crash) := nofun

theorem length_ofText (s : String) : (ofText s).length = s.utf8ByteSize := by
  rw [ofText, Array.length_toList]
  rfl

@[simp] theorem length_ofSingle (bits : UInt32) : (ofSingle bits).length = 4 := length_ofNat _ _

@[simp] theorem length_ofInstant (t : Time.Instant) : (ofInstant t).length = 8 := length_ofInt _ _

/-! ## Kinds that are taken -/

theorem fitsWidth_integer (width : Nat) (i : Int) : FitsWidth width ((integer width i).map some) := by
  rw [integer_eq]
  split
  · exact .written (length_ofInt width i)
  · exact .refused _

theorem fitsWidth_wholeNumber (width : Nat) (x : Double) : FitsWidth width ((wholeNumber width x).map some) := by
  unfold wholeNumber
  split
  · exact .written (length_ofInt width _)
  · exact .refused _

theorem fitsWidth_textFor (hwidth : type.width? = some width) {s : String} (htakes : type.takes (.string s) = true) :
    FitsWidth width ((textFor type s).map some) := by
  rw [textFor.eq_def]
  cases type <;> cases htakes <;> cases hwidth <;> dsimp only
  case timestamptz.refl.refl | timestamp.refl.refl =>
    split
    · exact .written (length_ofInstant _)
    · exact .refused _
  case float8.refl.refl =>
    split
    · exact .written (length_ofDouble _)
    · exact .refused _
  case bool.refl.refl =>
    split
    · exact .written rfl
    · split
      · exact .written rfl
      · exact .refused _

theorem fitsWidth_bytesFor (hwidth : type.width? = some width) (htakes : type.takes v = true) :
    FitsWidth width (bytesFor type v) := by
  cases v with
  | null | json | strings | polygon => cases type <;> cases htakes
  | bool b =>
      cases type <;> cases htakes
      cases hwidth
      exact .written rfl
  | integer i =>
      cases type <;> cases htakes <;> cases hwidth
      case integer.float4.refl.refl => exact .written (length_ofSingle _)
      case integer.float8.refl.refl => exact .written (length_ofDouble _)
      all_goals exact fitsWidth_integer _ i
  | number x =>
      cases type <;> cases htakes <;> cases hwidth
      case number.float4.refl.refl => exact .written (length_ofSingle _)
      case number.float8.refl.refl => exact .written (length_ofDouble x)
      all_goals exact fitsWidth_wholeNumber _ x
  | string s => exact fitsWidth_textFor hwidth htakes
  | timestamp t =>
      cases type <;> cases htakes <;> cases hwidth
      all_goals exact .written (length_ofInstant t)
  | point p =>
      cases type <;> cases htakes
      cases hwidth
      exact .written (length_ofPoint p)

/-! ## Kinds that are not taken -/

theorem bytesFor_fallback (hwidth : type.width? = some width) (htakes : type.takes v = false) {s : String}
    (htext : fallbackText? v = some s) : bytesFor type v = .ok (some (ofText s)) := by
  cases v <;> cases htext <;> cases type <;> cases htakes <;> cases hwidth <;> rfl

theorem fallbackText?_eq_none_iff : fallbackText? v = none ↔ v = .null ∨ ∃ items, v = .strings items := by
  cases v <;> simp [fallbackText?]

theorem bytesFor_strings (hwidth : type.width? = some width) (items : List String) :
    bytesFor type (.strings items) = .error .crash := by
  cases type <;> cases hwidth <;> rfl

/-! ## All values -/

theorem encode_eq_bytesFor (hwidth : type.width? = some width) (v : Value) : encode type v = bytesFor type v := by
  cases type <;> cases hwidth <;> rfl

/-- A value is written with the width of its type, or refused, just if it is null, of a kind that the type takes, or has
a text of that many bytes by chance. -/
theorem encode_fitsWidth_iff (hwidth : type.width? = some width) (v : Value) : FitsWidth width (encode type v) ↔
    v.isNull = true ∨ type.takes v = true ∨ ∃ s, fallbackText? v = some s ∧ s.utf8ByteSize = width := by
  rw [encode_eq_bytesFor hwidth]
  constructor
  · intro hfits
    cases htakes : type.takes v with
    | true => exact .inr (.inl rfl)
    | false =>
        cases htext : fallbackText? v with
        | some s =>
            rw [bytesFor_fallback hwidth htakes htext, fitsWidth_written_iff, length_ofText] at hfits
            exact .inr (.inr ⟨s, rfl, hfits⟩)
        | none =>
            obtain rfl | ⟨items, rfl⟩ := fallbackText?_eq_none_iff.mp htext
            · exact .inl rfl
            · exact (not_fitsWidth_crash (bytesFor_strings hwidth items ▸ hfits)).elim
  · rintro (hnull | htakes | ⟨s, htext, hlength⟩)
    · cases v <;> cases hnull
      exact .null
    · exact fitsWidth_bytesFor hwidth htakes
    · cases htakes : type.takes v with
      | true => exact fitsWidth_bytesFor hwidth htakes
      | false =>
          rw [bytesFor_fallback hwidth htakes htext, fitsWidth_written_iff, length_ofText]
          exact hlength

/-- The text of true has the width of four bytes, and not that of eight. -/
theorem encode_fitsWidth_bool : FitsWidth 4 (encode .int4 (.bool true)) ∧ FitsWidth 8 (encode .float8 (.number 0)) :=
  ⟨(encode_fitsWidth_iff rfl _).mpr (.inr (.inr ⟨"true", rfl, by decide⟩)),
    (encode_fitsWidth_iff rfl _).mpr (.inr (.inl rfl))⟩

/-- A condition of equality puts true where the server expects a number of eight bytes. -/
theorem encode_true_not_fitsWidth : encode .float8 (.bool true) = .ok (some [0x74, 0x72, 0x75, 0x65]) ∧
    ¬ FitsWidth 8 (encode .float8 (.bool true)) := by
  have hwritten : encode .float8 (.bool true) = .ok (some [0x74, 0x72, 0x75, 0x65]) := by decide
  exact ⟨hwritten, hwritten ▸ nofun⟩

end Docstore.Wire
