import Docstore.Json.Basic
import Docstore.Number.FloatText
import Docstore.Text.Hexadecimal

/-!
# Document text

The compact text of a document: no blanks, keys in order, and only the quote, the backslash and
control characters escaped.
-/

namespace Docstore.Json

open Docstore.Text (hexDigit)

/-- What stands in a string for one character. -/
def escapeChar (c : Char) : List Char :=
  if c = '"' then ['\\', '"']
  else if c = '\\' then ['\\', '\\']
  else if c = '\n' then ['\\', 'n']
  else if c = '\r' then ['\\', 'r']
  else if c = '\t' then ['\\', 't']
  else if c = '\x08' then ['\\', 'b']
  else if c = '\x0c' then ['\\', 'f']
  else if c.toNat < 0x20 then
    ['\\', 'u', '0', '0', hexDigit (c.toNat / 16), hexDigit (c.toNat % 16)]
  else [c]

def quoteChars (cs : List Char) : List Char := '"' :: (cs.flatMap escapeChar ++ ['"'])

def quote (s : String) : String := String.ofList (quoteChars s.toList)

/-- An integer's digits, or a float's text; a float that is no number has none and becomes null. -/
def Number.text : Number → String
  | .integer i => toString i
  | .float x => if x.isFinite then FloatText.json.write x else "null"

mutual

def print : Json → String
  | .null => "null"
  | .bool true => "true"
  | .bool false => "false"
  | .number n => n.text
  | .string s => quote s
  | .array items => "[" ++ ",".intercalate (printItems items) ++ "]"
  | .object fields => "\x7b" ++ ",".intercalate (printFields fields) ++ "\x7d"

def printItems : List Json → List String
  | [] => []
  | v :: rest => print v :: printItems rest

def printFields : List (String × Json) → List String
  | [] => []
  | (k, v) :: rest => (quote k ++ ":" ++ print v) :: printFields rest

end

end Docstore.Json
