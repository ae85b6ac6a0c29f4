/-!
# Bytes

Numbers and texts as bytes. Numbers have a fixed width and start with their highest byte; negative
ones are written as complements.
-/

namespace Docstore.Wire

abbrev Bytes := List UInt8

/-- How many numbers a width tells apart. -/
def span : (width : Nat) → Nat
  | 0 => 1
  | width + 1 => 256 * span width

/-- The last digits of a number to base 256. -/
def ofNat : (width : Nat) → Nat → Bytes
  | 0, _ => []
  | width + 1, n => ofNat width (n / 256) ++ [UInt8.ofNat (n % 256)]

def toNat (bs : Bytes) : Nat := bs.foldl (fun n b => n * 256 + b.toNat) 0

/-- An integer, modulo what the width can tell apart. -/
def ofInt (width : Nat) (i : Int) : Bytes := ofNat width (i % span width).toNat

/-- The integer nearest to zero that bytes stand for. -/
def toInt (bs : Bytes) : Int :=
  if 2 * toNat bs < span bs.length then toNat bs else toNat bs - span bs.length

/-- The first bytes, and those behind them. -/
def take? (width : Nat) (bs : Bytes) : Option (Bytes × Bytes) :=
  if width ≤ bs.length then some (bs.take width, bs.drop width) else none

/-- All of the bytes, if they are that many. -/
def exactly? (width : Nat) (bs : Bytes) : Option Bytes := if bs.length = width then some bs else none

def ofText (s : String) : Bytes := s.toUTF8.data.toList

/-- The text that bytes encode, if they are well formed. -/
def text? (bs : Bytes) : Option String := String.fromUTF8? ⟨bs.toArray⟩

@[simp] theorem length_ofNat (width n : Nat) : (ofNat width n).length = width := by
  induction width generalizing n with
  | zero => rfl
  | succ width ih => simp [ofNat, ih]

theorem toNat_append_singleton (bs : Bytes) (b : UInt8) : toNat (bs ++ [b]) = toNat bs * 256 + b.toNat := by
  simp [toNat]

theorem toNat_ofNat (width n : Nat) : toNat (ofNat width n) = n % span width := by
  induction width generalizing n with
  | zero => simp [ofNat, toNat, span, Nat.mod_one]
  | succ width ih =>
    rw [ofNat, toNat_append_singleton, ih, span, Nat.mod_mul]
    simp
    omega

end Docstore.Wire
