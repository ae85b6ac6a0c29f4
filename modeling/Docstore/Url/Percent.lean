import Docstore.Text.Hexadecimal
import Docstore.Wire.Bytes

/-!
# Percent-encoding

Characters that may not stand in a part of a URL are written as the bytes of their encoding, each as
a percent sign and two digits. What may stand differs from part to part.
-/

namespace Docstore.Url

open Docstore.Text (hexDigit hexValue?)

/-- Controls and all that lies beyond ASCII, which no part holds. -/
def isControl (c : Char) : Bool := decide (c.toNat < 0x20) || decide (0x7f ≤ c.toNat)

/-- What a fragment may not hold. -/
def isBarredInFragment (c : Char) : Bool := isControl c || [' ', '"', '<', '>', '\x60'].contains c

/-- What a query may not hold. -/
def isBarredInQuery (c : Char) : Bool := isControl c || [' ', '"', '#', '<', '>'].contains c

/-- What a path may not hold. -/
def isBarredInPath (c : Char) : Bool := isBarredInFragment c || ['#', '?', '\x7b', '\x7d'].contains c

/-- What a name or a password may not hold. -/
def isBarredInCredentials (c : Char) : Bool :=
  isBarredInPath c || ['/', ':', ';', '=', '@', '[', '\\', ']', '^', '|'].contains c

/-- A byte as a percent sign and two upper-case digits. -/
def percentByte (b : UInt8) : List Char :=
  ['%', (hexDigit (b.toNat / 16)).toUpper, (hexDigit (b.toNat % 16)).toUpper]

/-- Encodes the characters of a class. Percent signs stay, so that encoded text stays what it is. -/
def percentEncode (barred : Char → Bool) (cs : List Char) : List Char :=
  cs.flatMap fun c => if barred c then (String.utf8EncodeChar c).flatMap percentByte else [c]

/-- The bytes of a text, with encoded bytes taken back. -/
def percentDecode : List Char → Wire.Bytes
  | [] => []
  | '%' :: a :: b :: rest =>
    match hexValue? a, hexValue? b with
    | some x, some y => UInt8.ofNat (x * 16 + y) :: percentDecode rest
    | _, _ => UInt8.ofNat '%'.toNat :: percentDecode (a :: b :: rest)
  | c :: rest => String.utf8EncodeChar c ++ percentDecode rest

end Docstore.Url
