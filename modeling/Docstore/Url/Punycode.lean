import Docstore.Text.Split

/-!
# Punycode

International labels in ASCII: first their ASCII characters, then the places of the others, in the
order of their code points, as differences in a number system whose digit weights follow the size of
the differences so far.
-/

namespace Docstore.Url.Punycode

open Docstore.Text (cut?)

/-- The digits below thirty-six: letters first. -/
def digit (d : Nat) : Char :=
  if d < 26 then Char.ofNat ('a'.toNat + d) else Char.ofNat ('0'.toNat + (d - 26))

/-- The least digit at a place that does not end a number. -/
def threshold (place bias : Nat) : Nat :=
  if place ≤ bias then 1 else if bias + 26 ≤ place then 26 else place - bias

theorem one_le_threshold (place bias : Nat) : 1 ≤ threshold place bias := by
  unfold threshold
  split
  · omega
  · split <;> omega

/-- Writes a difference, from the place that is given. -/
def digits (bias place n : Nat) : List Char :=
  let t := threshold place bias
  if n < t then [digit n]
  else digit (t + (n - t) % (36 - t)) :: digits bias (place + 36) ((n - t) / (36 - t))
termination_by n
decreasing_by
  have := one_le_threshold place bias
  exact Nat.lt_of_le_of_lt (Nat.div_le_self _ _) (by omega)

/-- The bias for a damped difference: it grows by a whole place for each digit that the difference needs. -/
def settle (place delta : Nat) : Nat :=
  if 455 < delta then settle (place + 36) (delta / 35) else place + 36 * delta / (delta + 38)
termination_by delta
decreasing_by exact Nat.div_lt_self (by omega) (by omega)

/-- The bias after a difference, the first of all or a later one, with `count` characters placed. -/
def adapt (delta count : Nat) (first : Bool) : Nat :=
  let delta := if first then delta / 700 else delta / 2
  settle 0 (delta + delta / count)

/-- How far an encoding has come. -/
structure Progress where
  delta : Nat
  bias : Nat
  placed : Nat
  written : List Char

/-- Passes one character of the label while those with the code point `n` are placed. -/
def pass (plain n : Nat) (p : Progress) (c : Char) : Progress :=
  if c.toNat < n then { p with delta := p.delta + 1 }
  else if c.toNat = n then
    ⟨0, adapt p.delta (p.placed + 1) (p.placed == plain), p.placed + 1,
      p.written ++ digits p.bias 36 p.delta⟩
  else p

/-- Places the characters of one code point after another, given in rising order. -/
def place (label : List Char) (plain : Nat) : (next : Nat) → List Nat → Progress → List Char
  | _, [], p => p.written
  | next, n :: rest, p =>
    let passed := label.foldl (pass plain n) { p with delta := p.delta + (n - next) * (p.placed + 1) }
    place label plain (n + 1) rest { passed with delta := passed.delta + 1 }

/-- The ASCII form of a label that holds other characters. -/
def encode (label : List Char) : List Char :=
  let plain := label.filter (·.toNat < 0x80)
  let others := ((label.map Char.toNat).filter (0x80 ≤ ·)).eraseDups.mergeSort
  place label plain.length 0x80 others
    ⟨0, 72, plain.length, if plain.isEmpty then [] else plain ++ ['-']⟩

/-! ## Reading -/

def digitValue? (c : Char) : Option Nat :=
  if 'a' ≤ c ∧ c ≤ 'z' then some (c.toNat - 'a'.toNat)
  else if 'A' ≤ c ∧ c ≤ 'Z' then some (c.toNat - 'A'.toNat)
  else if c.isDigit then some (c.toNat - '0'.toNat + 26)
  else none

/-- What is counted stays below this. -/
def bound : Nat := 0x100000000

/-- How far a text has been read back: the last character placed, and the number that is being read. -/
structure Reading where
  text : List Char
  bias : Nat
  code : Nat
  /-- What the numbers so far count to, from the place of the last character. -/
  count : Nat
  start : Nat
  weight : Nat
  place : Nat

namespace Reading

/-- Places the character that a number counts to. -/
def insert? (r : Reading) (count : Nat) : Option Reading :=
  let length := r.text.length + 1
  let code := r.code + count / length
  let index := count % length
  if code < 0xD800 || (0xDFFF < code && code < 0x110000) then
    some ⟨r.text.insertIdx index (Char.ofNat code), adapt (count - r.start) length (r.start == 0), code,
      index + 1, index + 1, 1, 36⟩
  else none

/-- Reads one digit. -/
def push? (r : Reading) (c : Char) : Option Reading := do
  let d ← digitValue? c
  let count := r.count + d * r.weight
  let t := threshold r.place r.bias
  if bound ≤ count then none
  else if d < t then r.insert? count
  else if bound ≤ r.weight * (36 - t) then none
  else some { r with count, weight := r.weight * (36 - t), place := r.place + 36 }

end Reading

/-- The ASCII characters of an encoded label, and the numbers that place the others. -/
def parts (cs : List Char) : List Char × List Char :=
  match cut? '-' cs.reverse with
  | some (_, []) => ([], cs)
  | some (numbers, plain) => (plain.reverse, numbers.reverse)
  | none => ([], cs)

/-- The label that was encoded. -/
def decode? (cs : List Char) : Option (List Char) := do
  let (plain, numbers) := parts cs
  let r ← numbers.foldlM Reading.push? ⟨plain, 72, 0x80, 0, 0, 1, 36⟩
  if r.place = 36 then some r.text else none

end Docstore.Url.Punycode
