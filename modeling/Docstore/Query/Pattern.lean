import Docstore.Json.Basic
import Docstore.Text.CharClass

/-!
# Patterns

Regular expressions of queries as the database's own. What stands between `\Q` and `\E` is meant
literally. In free spacing, blanks and comments that are not escaped mean nothing.
-/

namespace Docstore.Query.Pattern

/-- The text before and after the first place where a word stands. -/
def cutAt? (word : List Char) : List Char → Option (List Char × List Char)
  | [] => if word.isEmpty then some ([], []) else none
  | c :: rest =>
    if word.isPrefixOf (c :: rest) then some ([], (c :: rest).drop word.length)
    else (cutAt? word rest).map fun (before, after) => (c :: before, after)

/-- A text without the word at its start, if it stands there. -/
def dropStart (word cs : List Char) : List Char :=
  if word.isPrefixOf cs then cs.drop word.length else cs

/-- A text without the word at its end, if it stands there. -/
def dropEnd (word cs : List Char) : List Char :=
  if word.isSuffixOf cs then cs.take (cs.length - word.length) else cs

def openQuote : List Char := ['\\', 'Q']

def closeQuote : List Char := ['\\', 'E']

/-- Letters, digits and blanks stand for themselves, all else behind a backslash. -/
def escape (cs : List Char) : List Char :=
  cs.flatMap fun c =>
    if c.isDigit || c = ' ' || Text.isAlphabetic c then [c] else ['\\', c]

/-- Drops the first closing quote whose backslash does not follow another one. -/
def dropClose (afterBackslash : Bool) : List Char → List Char
  | [] => []
  | [c] => [c]
  | c :: d :: rest =>
    if c = '\\' && d = 'E' && !afterBackslash then rest
    else c :: dropClose (c = '\\') (d :: rest)

/-- A pattern without quoted parts; a closing quote without an opening one is dropped. -/
def unquoted (cs : List Char) : List Char := dropClose false (dropStart closeQuote cs)

/-- Expands a quoted part, which reaches to the end. -/
def literalize (cs : List Char) : List Char :=
  match cutAt? openQuote cs with
  | some (before, quoted) => unquoted before ++ escape (dropEnd closeQuote quoted)
  | none => unquoted cs

/-- A pattern with its quoted part expanded between its anchors. -/
def expand (cs : List Char) : List Char :=
  match cs with
  | '^' :: rest => '^' :: literalize rest
  | _ => if ['$'].isSuffixOf cs then literalize cs.dropLast ++ ['$'] else literalize cs

def process (pattern : String) : String := String.ofList (expand pattern.toList)

/-! ## Free spacing -/

/-- Removes blanks and comments that no backslash escapes. -/
def strip : List Char → List Char
  | [] => []
  | ['\\'] => ['\\']
  | '\\' :: c :: rest => '\\' :: c :: strip rest
  | c :: rest =>
    if c = '#' then skipComment rest
    else if Text.isBlank c then strip rest
    else c :: strip rest
where
  /-- Goes on behind the end of the line. -/
  skipComment : List Char → List Char
  | [] => []
  | c :: rest => if c = '\n' then strip rest else skipComment rest

/-- A text without the blanks at its ends. -/
def trim (cs : List Char) : List Char :=
  ((cs.dropWhile Text.isBlank).reverse.dropWhile Text.isBlank).reverse

def removeWhiteSpace (pattern : String) : String :=
  String.ofList (trim (strip pattern.toList))

/-! ## Patterns for the start of a text -/

/-- Whether a value is a pattern that quotes the start of a text. -/
def isStartsWith (value : Option Json) : Bool :=
  match value with
  | some (.string s) =>
    match s.toList with
    | '^' :: _ =>
      match cutAt? ('^' :: openQuote) s.toList with
      | some (_, after) => (cutAt? closeQuote after).isSome
      | none => false
    | _ => false
  | _ => false

/-- Whether a member of a list constraint is such a pattern. -/
def memberStartsWith (member : Json) : Bool := isStartsWith (member.get? "$regex")

/-- Whether the members of a list agree about it; a single one has to be such a pattern. -/
def allOrNone (members : List Json) : Bool :=
  match members with
  | [] => true
  | [member] => memberStartsWith member
  | first :: rest => rest.all fun member => memberStartsWith member == memberStartsWith first

end Docstore.Query.Pattern
