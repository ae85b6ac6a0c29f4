import Docstore.Json.Basic
import Docstore.Text.Hexadecimal

/-!
# Reading document text

The grammar is that of JSON, without extensions. A key given twice keeps its first place and its
last value. A number without point and exponent that fits 64 bits, with or without a sign, is an
integer; every other number is the nearest double, and one beyond all doubles is refused, as is
nesting deeper than `Json.maxDepth`. Values that nobody asks for are passed over: they keep to the
grammar, and are not limited otherwise.
-/

namespace Docstore.Json

open Docstore.Text (hexValue?)

/-- How deep lists and objects may be nested. -/
def maxDepth : Nat := 127

def isSpace (c : Char) : Bool := c = ' ' || c = '\n' || c = '\t' || c = '\r'

def skipSpace (cs : List Char) : List Char := cs.dropWhile isSpace

/-! ## Strings -/

/-- The number that four hexadecimal digits write. -/
def hex4? (a b c d : Char) : Option Nat := do
  return ((← hexValue? a) * 16 + (← hexValue? b)) * 256 + (← hexValue? c) * 16 + (← hexValue? d)

/-- The character behind a backslash, other than a number. -/
def shortEscape? (c : Char) : Option Char :=
  if c = '"' || c = '\\' || c = '/' then some c
  else if c = 'b' then some '\x08'
  else if c = 'f' then some '\x0c'
  else if c = 'n' then some '\n'
  else if c = 'r' then some '\r'
  else if c = 't' then some '\t'
  else none

/-- Puts a character in front of what was read. -/
def consChar (c : Char) : Option (List Char × List Char) → Option (List Char × List Char)
  | some (s, rest) => some (c :: s, rest)
  | none => none

/--
A string's characters behind its opening quote, and what follows its closing quote. Numbers of two
halves of a pair stand for one character, and a half alone is refused.
-/
def stringBody : List Char → Option (List Char × List Char)
  | [] => none
  | '"' :: rest => some ([], rest)
  | '\\' :: 'u' :: a :: b :: c :: d :: rest =>
    match hex4? a b c d with
    | none => none
    | some n =>
      if 0xdc00 ≤ n ∧ n < 0xe000 then none
      else if 0xd800 ≤ n ∧ n < 0xdc00 then
        match rest with
        | '\\' :: 'u' :: e :: f :: g :: h :: rest =>
          match hex4? e f g h with
          | none => none
          | some m =>
            if 0xdc00 ≤ m ∧ m < 0xe000 then
              consChar (Char.ofNat (0x10000 + (n - 0xd800) * 0x400 + (m - 0xdc00))) (stringBody rest)
            else none
        | _ => none
      else consChar (Char.ofNat n) (stringBody rest)
  | '\\' :: e :: rest =>
    match shortEscape? e with
    | some c => consChar c (stringBody rest)
    | none => none
  | c :: rest => if c.toNat < 0x20 || c = '\\' then none else consChar c (stringBody rest)

/-! ## Numbers -/

/-- The number written by decimal digits. -/
def digitsValue (ds : List Char) : Nat := ds.foldl (fun n d => n * 10 + (d.toNat - '0'.toNat)) 0

/-- A run of at least one digit. -/
def digits1? (cs : List Char) : Option (List Char × List Char) :=
  let ds := cs.takeWhile Char.isDigit
  if ds.isEmpty then none else some (ds, cs.dropWhile Char.isDigit)

/-- The digits behind a point, none if there is no point. -/
def fraction? : List Char → Option (List Char × List Char)
  | '.' :: rest => digits1? rest
  | cs => some ([], cs)

/-- The power of ten behind an `e`, zero and `false` if there is none. -/
def exponent? : List Char → Option (Int × Bool × List Char)
  | c :: rest =>
    if c = 'e' || c = 'E' then
      let (negative, rest) := match rest with
        | '+' :: rest => (false, rest)
        | '-' :: rest => (true, rest)
        | rest => (false, rest)
      (digits1? rest).map fun (ds, rest) =>
        (if negative then -(digitsValue ds : Int) else digitsValue ds, true, rest)
    else some (0, false, c :: rest)
  | [] => some (0, false, [])

/--
A number behind its sign as it is written: its whole digits, those behind the point, the power of ten, and whether the
whole digits are all.
-/
structure Numeral where
  whole : List Char
  fraction : List Char
  power : Int
  isPlain : Bool

/-- The numeral at the front of the text; its whole part has no leading zero. -/
def numeral? (cs : List Char) : Option (Numeral × List Char) := do
  let (whole, rest) ← digits1? cs
  let (fraction, rest) ← fraction? rest
  let (power, hasPower, rest) ← exponent? rest
  if whole.head? = some '0' && whole.length ≠ 1 then none
  else some (⟨whole, fraction, power, fraction.isEmpty && !hasPower⟩, rest)

/-- The number that a sign and a numeral stand for. -/
def Numeral.number? (negative : Bool) (n : Numeral) : Option Number :=
  let whole := digitsValue n.whole
  if n.isPlain && !negative && decide (whole < 0x10000000000000000) then some (.integer whole)
  else if n.isPlain && negative && whole != 0 && decide (whole ≤ 0x8000000000000000) then some (.integer (-whole))
  else
    let x := Double.ofDecimal negative (digitsValue (n.whole ++ n.fraction)) (n.power - n.fraction.length)
    if x.isFinite then some (.float x) else none

/-- A number at the front of the text, behind its sign. -/
def number? (negative : Bool) (cs : List Char) : Option (Json × List Char) := do
  let (n, rest) ← numeral? cs
  return (.number (← n.number? negative), rest)

/-! ## Values -/

/-- The key of a member, as `key` reads it behind the opening quote, and what follows the colon. -/
def memberKey? {κ : Type} (key : List Char → Option (κ × List Char)) (cs : List Char) : Option (κ × List Char) :=
  match skipSpace cs with
  | '"' :: rest =>
    match key rest with
    | none => none
    | some (k, rest) =>
      match skipSpace rest with
      | ':' :: rest => some (k, rest)
      | _ => none
  | _ => none

/-- Drops a word from the front of the text. -/
def word? : List Char → List Char → Option (List Char)
  | [], cs => some cs
  | w :: ws, c :: cs => if w = c then word? ws cs else none
  | _ :: _, [] => none

mutual

/-- A value at the front of the text. Each round of `fuel` lasts one step into or along a value. -/
def value? : Nat → Nat → List Char → Option (Json × List Char)
  | 0, _, _ => none
  | fuel + 1, depth, cs =>
    match skipSpace cs with
    | 'n' :: rest => (word? ['u', 'l', 'l'] rest).map (Json.null, ·)
    | 't' :: rest => (word? ['r', 'u', 'e'] rest).map (Json.bool true, ·)
    | 'f' :: rest => (word? ['a', 'l', 's', 'e'] rest).map (Json.bool false, ·)
    | '"' :: rest => (stringBody rest).map fun (s, rest) => (.string (String.ofList s), rest)
    | '-' :: rest => number? true rest
    | '[' :: rest =>
      if depth = 0 then none
      else match skipSpace rest with
        | ']' :: rest => some (.array [], rest)
        | rest => (items? fuel (depth - 1) rest).map fun (vs, rest) => (.array vs, rest)
    | '{' :: rest =>
      if depth = 0 then none
      else match skipSpace rest with
        | '}' :: rest => some (.object [], rest)
        | rest => (members? fuel (depth - 1) rest).map fun (fs, rest) =>
            (.object (Fields.ofPairs fs), rest)
    | rest => number? false rest

/-- The items of a list up to its end. -/
def items? : Nat → Nat → List Char → Option (List Json × List Char)
  | 0, _, _ => none
  | fuel + 1, depth, cs =>
    match value? fuel depth cs with
    | none => none
    | some (v, rest) =>
      match skipSpace rest with
      | ']' :: rest => some ([v], rest)
      | ',' :: rest => (items? fuel depth rest).map fun (vs, rest) => (v :: vs, rest)
      | _ => none

/-- The members of an object up to its end. -/
def members? : Nat → Nat → List Char → Option (List (String × Json) × List Char)
  | 0, _, _ => none
  | fuel + 1, depth, cs =>
    match memberKey? stringBody cs with
    | none => none
    | some (k, rest) =>
      match value? fuel depth rest with
      | none => none
      | some (v, rest) =>
        match skipSpace rest with
        | '}' :: rest => some ([(String.ofList k, v)], rest)
        | ',' :: rest => (members? fuel depth rest).map fun (fs, rest) => ((String.ofList k, v) :: fs, rest)
        | _ => none

end

/-! ## Values that are passed over -/

/-- What follows a string's closing quote; in this string a half of a pair may stand alone. -/
def skipString : List Char → Option (List Char)
  | [] => none
  | '"' :: rest => some rest
  | '\\' :: 'u' :: a :: b :: c :: d :: rest => if (hex4? a b c d).isSome then skipString rest else none
  | '\\' :: e :: rest => if (shortEscape? e).isSome then skipString rest else none
  | c :: rest => if c.toNat < 0x20 || c = '\\' then none else skipString rest

mutual

/--
What follows a value of which only the form counts: its numbers may lie beyond all doubles, and it may be nested at
any depth.
-/
def skipValue? : Nat → List Char → Option (List Char)
  | 0, _ => none
  | fuel + 1, cs =>
    match skipSpace cs with
    | 'n' :: rest => word? ['u', 'l', 'l'] rest
    | 't' :: rest => word? ['r', 'u', 'e'] rest
    | 'f' :: rest => word? ['a', 'l', 's', 'e'] rest
    | '"' :: rest => skipString rest
    | '-' :: rest => (numeral? rest).map Prod.snd
    | '[' :: rest =>
      match skipSpace rest with
      | ']' :: rest => some rest
      | rest => skipItems? fuel rest
    | '{' :: rest =>
      match skipSpace rest with
      | '}' :: rest => some rest
      | rest => skipMembers? fuel rest
    | rest => (numeral? rest).map Prod.snd

/-- What follows the end of a list of such values. -/
def skipItems? : Nat → List Char → Option (List Char)
  | 0, _ => none
  | fuel + 1, cs =>
    match skipValue? fuel cs with
    | none => none
    | some rest =>
      match skipSpace rest with
      | ']' :: rest => some rest
      | ',' :: rest => skipItems? fuel rest
      | _ => none

/-- What follows the end of an object of such values; its keys count no more than they do. -/
def skipMembers? : Nat → List Char → Option (List Char)
  | 0, _ => none
  | fuel + 1, cs =>
    match memberKey? (fun cs => (skipString cs).map ((), ·)) cs with
    | none => none
    | some (_, rest) =>
      match skipValue? fuel rest with
      | none => none
      | some rest =>
        match skipSpace rest with
        | '}' :: rest => some rest
        | ',' :: rest => skipMembers? fuel rest
        | _ => none

end

/-- The member under a key that is known, and no member under another, whose value is passed over. -/
def knownMember? (known : List String) (fuel depth : Nat) (key : String) (cs : List Char) :
    Option (List (String × Json) × List Char) :=
  if key ∈ known then (value? fuel depth cs).map fun (v, rest) => ([(key, v)], rest)
  else (skipValue? fuel cs).map ([], ·)

/-- The members of an object up to its end, those under unknown keys left out. -/
def knownMembers? (known : List String) : Nat → Nat → List Char → Option (List (String × Json) × List Char)
  | 0, _, _ => none
  | fuel + 1, depth, cs =>
    match memberKey? stringBody cs with
    | none => none
    | some (k, rest) =>
      match knownMember? known fuel depth (String.ofList k) rest with
      | none => none
      | some (ms, rest) =>
        match skipSpace rest with
        | '}' :: rest => some (ms, rest)
        | ',' :: rest => (knownMembers? known fuel depth rest).map fun (fs, rest) => (ms ++ fs, rest)
        | _ => none

/-! ## Texts -/

/-- Steps that suffice for any text of a length. -/
def enough (cs : List Char) : Nat := 2 * cs.length + 2

/--
The members under known keys of the object that a text holds, those of a repeated key all among them. Other members
are passed over.
-/
def parseKnown? (known : List String) (s : String) : Option (List (String × Json)) :=
  match skipSpace s.toList with
  | '{' :: rest =>
    match skipSpace rest with
    | '}' :: rest => if (skipSpace rest).isEmpty then some [] else none
    | body =>
      match knownMembers? known (enough body) (maxDepth - 1) body with
      | some (ms, rest) => if (skipSpace rest).isEmpty then some ms else none
      | none => none
  | _ => none

/-- The value that a text holds, with blanks around it and nothing else. -/
def parse? (s : String) : Option Json :=
  let cs := s.toList
  match value? (enough cs) maxDepth cs with
  | some (v, rest) => if (skipSpace rest).isEmpty then some v else none
  | none => none

end Docstore.Json
