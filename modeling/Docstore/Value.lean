import Docstore.Geometry
import Docstore.Time.Iso

/-!
# Values

What a statement binds to a placeholder and what a column holds. The cases follow columns rather
than documents: a pointer is bound as the text of its id, a place as a point.
-/

namespace Docstore

inductive Value
  | null
  | bool (b : Bool)
  | integer (i : Int)
  | number (x : Double)
  | string (s : String)
  | timestamp (t : Time.Instant)
  | json (v : Json)
  | strings (items : List String)
  | point (p : Point)
  | polygon (ps : List Point)
deriving Inhabited, Repr

namespace Value

def isNull : Value → Bool
  | null => true
  | _ => false

def text? : Value → Option String
  | string s => some s
  | _ => none

end Value

end Docstore
