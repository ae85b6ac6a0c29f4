import Docstore.Json.Parser
import Docstore.Json.Printer

/-!
# Announcements

Stores that share a database tell each other which schemas changed. An announcement names its sender,
so that no store listens to itself.
-/

namespace Docstore

/-- The channel of announcements. -/
def schemaChannel : String := "schema.change"

structure Announcement where
  sender : String
  /-- The class that changed, or none where every class may have. -/
  className : Option String
deriving DecidableEq, Repr

namespace Announcement

def toFields (a : Announcement) : Document :=
  ("senderId", .string a.sender) :: (a.className.map fun c => ("className", Json.string c)).toList

/-- An announcement as it is sent. -/
def text (a : Announcement) : String := Json.print (.object a.toFields)

/-- The announcement of a sender and of the value that names a class. -/
def ofParts? (sender : Json) (className : Option Json) : Option Announcement :=
  match sender, className with
  | .string s, none => some ⟨s, none⟩
  | .string s, some .null => some ⟨s, none⟩
  | .string s, some (.string c) => some ⟨s, some c⟩
  | _, _ => none

/-- The values that stand under a key. -/
def valuesOf (key : String) (members : List (String × Json)) : List Json :=
  (members.filter (·.1 = key)).map Prod.snd

/-- The announcement that the members of an object make. A key that means something stands once. -/
def ofMembers? (members : List (String × Json)) : Option Announcement :=
  match valuesOf "senderId" members, valuesOf "className" members with
  | [sender], [] => ofParts? sender none
  | [sender], [className] => ofParts? sender (some className)
  | _, _ => none

/-- The announcement that a list of a sender and a class makes. -/
def ofItems? : List Json → Option Announcement
  | [sender] => ofParts? sender none
  | [sender, className] => ofParts? sender (some className)
  | _ => none

/-- The announcement that a text holds. Members that mean nothing are passed over, whatever they hold. -/
def ofText? (s : String) : Option Announcement :=
  match Json.parseKnown? ["senderId", "className"] s with
  | some members => ofMembers? members
  | none =>
    match Json.parse? s with
    | some (.array items) => ofItems? items
    | _ => none

end Announcement

/-- A notification as it arrives. -/
structure Notification where
  channel : String
  payload : String
deriving DecidableEq, Repr

/-- What a notification says to a store that is called `own`: changes that others made. -/
def Notification.change? (own : String) (n : Notification) : Option Announcement :=
  if n.channel = schemaChannel then (Announcement.ofText? n.payload).filter (·.sender ≠ own) else none

end Docstore
