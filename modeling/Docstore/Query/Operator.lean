import Docstore.Encoding
import Docstore.Query.Clauses
import Docstore.Query.Pattern
import Docstore.Schema.Basic
import Docstore.Time.Relative

/-!
# Operators

What each operator of a constraint becomes. Operators do not know of each other but for `$options`
and `$maxDistance`, which belong to `$regex` and `$nearSphere`, and for a `$ne` of null, which ends a
constraint.
-/

namespace Docstore.Query

/-- The field that a constraint is on. -/
structure Subject where
  key : String
  type : Option FieldType

namespace Subject

def isDotted (s : Subject) : Bool := Query.isDotted s.key

def isArray (s : Subject) : Bool := s.type.any (·.isArray)

def isStringArray (s : Subject) : Bool := s.type.any (·.isStringArray)

/-- The field's column, or the text at the key's place. -/
def operand (s : Subject) : Operand := .text s.key

/-- The field's column as a list. -/
def list (s : Subject) : Operand := .list s.key s.isStringArray

/-- The type that the text at a place is read as to compare it with a value. -/
def castFor? : Json → Option String
  | .number _ => some "double precision"
  | .bool _ => some "boolean"
  | _ => none

/-- What is compared with a value. -/
def comparedWith (s : Subject) (v : Json) : Operand :=
  match s.isDotted, castFor? v with
  | true, some type => .cast s.key type
  | _, _ => s.operand

end Subject

namespace Operator

/-- The negation of a group. -/
def notGroup (c : Condition) : Condition := .negate (.anyOf [[c]])

def isRelativeTime (v : Json) : Bool := (v.get? "$relativeTime").isSome

/-- Relative times are for comparisons of order. -/
def relativeTimeMisuse : Cause :=
  .invalidJson "$relativeTime can only be used with the $lt, $lte, $gt, and $gte operators"

/-- The members of a list, those of lists among them one level down. -/
def flatten (list : List Json) : List Json :=
  list.flatMap fun
    | .array inner => inner
    | v => [v]

/-! ## Membership -/

/-- Membership in a list at a place inside a document; a missing place is in no list. -/
def inDocument (s : Subject) (negated : Bool) (list : List Json) : Condition :=
  let contains := Condition.test (.containsJson (.json s.key) list)
  if negated then .anyOf [[.test (.isNull (.json s.key))], [notGroup contains]] else contains

/-- Membership of a list column's items. -/
def listIn (x : Operand) (negated : Bool) (list : List Json) : Condition :=
  let contains := Condition.test (.hasAny x list)
  if negated then .anyOf [[.test (.isNull x)], [.negate contains]] else contains

/-- Membership in values that are not null. -/
def valueIn (x : Operand) (native negated : Bool) (vs : List Value) : Condition :=
  match native, negated with
  | true, false => .test (.overlaps x vs)
  | true, true => notGroup (.test (.overlaps x vs))
  | false, false => .test (.isIn x vs)
  | false, true => .test (.isNotIn x vs)

/-- Membership of a column in a list. A null is a member only if the list names it. -/
def columnIn (s : Subject) (negated : Bool) (list : List Json) : Condition :=
  let x := Operand.column s.key
  let members := flatten list
  let vs := (members.filter (!·.isNull)).map Encoding.untyped
  let null := Condition.test (.isNull x)
  let notNull := Condition.test (.isNotNull x)
  if members.isEmpty then .test (.inEmpty negated)
  else if s.isArray && !s.isStringArray then listIn x negated members
  else if vs.isEmpty then (if negated then notNull else null)
  else
    let inValues := valueIn x s.isStringArray negated vs
    match negated, members.any (·.isNull) with
    | false, true => .anyOf [[null], [inValues]]
    | true, true => .allOf [[notNull], [inValues]]
    | true, false => .anyOf [[null], [inValues]]
    | false, false => inValues

/-- `$in` and `$nin`; a place inside a document has had its condition before. -/
def membership (s : Subject) (op : String) (negated : Bool) : Option Json → Clauses
  | none => .none
  | some (.array list) => if s.isDotted then .none else .one (columnIn s negated list)
  | some _ => Clauses.fail (.invalidJson ("bad " ++ op ++ " value"))

/-- `$in` and `$nin` of a place inside a document. -/
def dottedMembership (s : Subject) (negated : Bool) : Option Json → Clauses
  | some (.array list) => if s.isDotted then .one (inDocument s negated list) else .none
  | _ => .none

/-! ## Equality -/

/-- A difference that a null shows too. -/
def differs (x : Operand) (v : Value) : Condition :=
  .anyOf [[.test (.differs x v)], [.test (.isNull x)]]

def notEqual (s : Subject) : Option Json → Clauses
  | none => .none
  | some v =>
    if s.isArray then .one (.negate (.test (.hasAny s.list [v])))
    else if v.isNull then .test (.isNotNull s.operand)
    else if v.typeTag? = some "GeoPoint" then
      Clauses.given (Geometry.point v) fun p =>
        .one (.anyOf [[notGroup (.test (.isPoint s.operand p))], [.test (.isNull s.operand)]])
    else if isRelativeTime v then Clauses.fail relativeTimeMisuse
    else .one (differs (s.comparedWith v) (Encoding.untyped v))

/-- Whether a constraint says no more than that a value is there. -/
def endsConstraint (s : Subject) : Option Json → Bool
  | some .null => !s.isArray
  | _ => false

def equal (s : Subject) : Option Json → Clauses
  | none => .none
  | some v =>
    if v.isNull then .test (.isNull s.operand)
    else if isRelativeTime v then Clauses.fail relativeTimeMisuse
    else .test (.equals (s.comparedWith v) (Encoding.untyped v))

/-! ## Lists -/

/-- The text that a pattern for the start of a text looks for, followed by anything. -/
def likePattern (member : Json) : Option Json :=
  ((member.get? "$regex").bind Json.text?).map fun pattern =>
    .string (String.ofList ((Pattern.process pattern).toList.drop 1 ++ ['%']))

/-- `$all`. A column that is no list can equal one member. -/
def all (s : Subject) : Option Json → Clauses
  | some (.array members) =>
    if s.isArray then
      if members.any Pattern.memberStartsWith then
        if Pattern.allOrNone members then
          .test (.hasAllLike s.list (members.filterMap likePattern))
        else
          Clauses.fail (.invalidJson
            ("All $all values must be of regex type or none: " ++ (Json.array members).print))
      else .test (.hasAll s.list members)
    else match members with
      | [member] =>
        .test (.equals s.operand (Encoding.untyped ((member.get? "objectId").getD member)))
      | _ => .none
  | _ => .none

def containedBy (s : Subject) : Option Json → Clauses
  | none => .none
  | some (.array members) => .test (.isContainedBy s.list members)
  | some _ => Clauses.fail (.invalidJson "bad $containedBy: should be an array")

def present (s : Subject) : Option Json → Clauses
  | none => .none
  | some v =>
    if isRelativeTime v then Clauses.fail relativeTimeMisuse
    else if v.truthy then .test (.isNotNull s.operand)
    else .test (.isNull s.operand)

/-! ## Text -/

/-- An option of a search that may only have one of the two truth values. -/
def checkFlag (refused : Bool) (refusal notBoolean : String) : Option Json → Result Unit
  | some (.bool b) => if b = refused then fail (.invalidJson refusal) else .ok ()
  | some v => if v.truthy then fail (.invalidJson notBoolean) else .ok ()
  | none => .ok ()

/-- The words of a search. -/
def searchTerm : Option Json → Result String
  | some (.string term) =>
    if term = "" then fail (.invalidJson "bad $text: $term, should be string") else .ok term
  | _ => fail (.invalidJson "bad $text: $term, should be string")

def searchLanguage : Option Json → Result String
  | none => .ok "english"
  | some (.string language) => .ok language
  | some _ => fail (.invalidJson "bad $text: $language, should be string")

/-- The search that a value describes. -/
def textSearch (field : String) (v : Json) : Result TextSearch :=
  match v.get? "$search" with
  | some (.object search) => do
    let term ← searchTerm (Fields.get? "$term" search)
    let language ← searchLanguage (Fields.get? "$language" search)
    checkFlag true
      "bad $text: $caseSensitive not supported, please use $regex or create a separate lower case column."
      "bad $text: $caseSensitive, should be boolean" (Fields.get? "$caseSensitive" search)
    checkFlag false
      "bad $text: $diacriticSensitive - false not supported, install Postgres Unaccent Extension"
      "bad $text: $diacriticSensitive, should be boolean" (Fields.get? "$diacriticSensitive" search)
    return ⟨field, language, term⟩
  | _ => fail (.invalidJson "bad $text: $search, should be object")

def text (s : Subject) : Option Json → Clauses
  | none => .none
  | some v => Clauses.given (textSearch s.key v) fun search => .test (.matchesText search)

/-- `$regex`, with the letters `i` and `x` of `$options`. An empty pattern is no constraint. -/
def regex (s : Subject) (options : Option Json) : Option Json → Clauses
  | none => .none
  | some (.string pattern) =>
    if pattern = "" then .none
    else
      let letters := ((options.bind Json.text?).getD "").toList
      let pattern := if letters.contains 'x' then Pattern.removeWhiteSpace pattern else pattern
      .test (.matchesPattern s.operand (letters.contains 'i') (Pattern.process pattern))
  | some v => Clauses.fail (.invalidQuery ("bad $regex value: " ++ v.print))

/-! ## Places -/

/-- `$nearSphere`; the point is bound before `$maxDistance` is read. -/
def nearSphere (s : Subject) (maxDistance : Option Json) : Option Json → Clauses
  | none => .none
  | some v =>
    Clauses.given (Geometry.point v) fun p =>
      match maxDistance with
      | none => .test (.hasDistance ⟨s.key, p⟩)
      | some max =>
        match max.double? with
        | some x => .test (.isWithin ⟨s.key, p⟩ (Geometry.radiansToMeters x) true)
        | none =>
          .error ⟨.ofCause (.invalidJson "bad $maxDistance"), [.number p.x, .number p.y]⟩

def withinBox (s : Subject) : Option Json → Clauses
  | none => .none
  | some (.array [lower, upper]) =>
    Clauses.given (Geometry.point lower) fun lower =>
      Clauses.given (Geometry.point upper) fun upper =>
        .test (.isInside s.key "box" (Geometry.polygonText [lower, upper]))
  | some _ =>
    Clauses.fail (.invalidJson "bad $within value; $box should be an array of 2 GeoPoints")

/-- A pair of longitude and latitude. -/
def lonLat (invalid : Cause) (longitude latitude : Json) : Result Point :=
  match longitude.double?, latitude.double? with
  | some longitude, some latitude => Geometry.pointAt latitude longitude
  | _, _ => fail invalid

def invalidCenter : Cause :=
  .invalidJson "bad $geoWithin value; $centerSphere geo point invalid"

def sphereCenter (v : Json) : Result Point :=
  match v with
  | .array [longitude, latitude] => lonLat invalidCenter longitude latitude
  | _ =>
    if v.typeTag? = some "GeoPoint" then
      match Geometry.point v with
      | .ok p => .ok p
      | .error _ => fail invalidCenter
    else fail invalidCenter

/-- A radius is zero or more. -/
def sphereRadius (v : Json) : Result Double :=
  match v.double? with
  | some r =>
    if Double.le 0 r then .ok r
    else fail (.invalidJson "bad $geoWithin value; $centerSphere distance invalid")
  | none => fail (.invalidJson "bad $geoWithin value; $centerSphere distance invalid")

def centerSphere (s : Subject) : Option Json → Clauses
  | none => .none
  | some (.array (center :: radius :: _)) =>
    Clauses.given (sphereCenter center) fun p =>
      Clauses.given (sphereRadius radius) fun r =>
        .test (.isWithin ⟨s.key, p⟩ (Geometry.radiansToMeters r) false)
  | some _ =>
    Clauses.fail (.invalidJson
      "bad $geoWithin value; $centerSphere should be an array of Parse.GeoPoint and distance")

def polygonVertex (v : Json) : Result Point :=
  match v with
  | .array [longitude, latitude] =>
    lonLat (.invalidJson "bad $geoWithin value") longitude latitude
  | _ =>
    if v.typeTag? = some "GeoPoint" then Geometry.point v
    else fail (.invalidJson "bad $geoWithin value")

/-- The ring of a polygon value, or of a list of points. -/
def withinRing (v : Json) : Result (List Point) :=
  if v.typeTag? = some "Polygon" then
    match v.get? "coordinates" with
    | some (.array pairs) =>
      if pairs.length < 3 then
        fail (.invalidJson
          "bad $geoWithin value; Polygon.coordinates should contain at least 3 lon/lat pairs")
      else Geometry.polygon (.array pairs)
    | _ =>
      fail (.invalidJson
        "bad $geoWithin value; Polygon.coordinates should contain at least 3 lon/lat pairs")
  else match v with
    | .array items =>
      if items.length < 3 then
        fail (.invalidJson
          "bad $geoWithin value; $polygon should contain at least 3 GeoPoints")
      else items.mapM polygonVertex
    | _ =>
      fail (.invalidJson
        "bad $geoWithin value; $polygon should be Polygon object or Array of Parse.GeoPoint's")

def withinPolygon (s : Subject) : Option Json → Clauses
  | none => .none
  | some v =>
    Clauses.given (withinRing v) fun ring =>
      .test (.isInside s.key "polygon" (Geometry.polygonText ring))

def intersects (s : Subject) : Option Json → Clauses
  | none => .none
  | some v =>
    if v.typeTag? = some "GeoPoint" then
      Clauses.given (Geometry.point v) fun p => .test (.covers s.key p.text)
    else Clauses.fail (.invalidJson "bad $geoIntersect value; $point should be GeoPoint")

/-! ## Order -/

/-- The instant of a relative time. -/
def relativeTime (now : Time.Instant) (v : Json) : Result Time.Instant :=
  match (v.get? "$relativeTime").bind Json.text? with
  | none => fail (.invalidJson "bad $relativeTime value, should be string")
  | some text =>
    match Time.Relative.resolve text now with
    | .ok t => .ok t
    | .error .outOfRange => .error .crash
    | .error e =>
      fail (.invalidJson ("bad $relativeTime (" ++ text ++ ") value. " ++ e.message))

/-- A comparison of order. Operands without content are no constraint, but zero is one. -/
def compare (now : Time.Instant) (s : Subject) (c : Comparison) : Option Json → Clauses
  | none => .none
  | some v =>
    if !v.truthy && !v.double?.isSome then .none
    else if isRelativeTime v then
      if s.isDotted || s.type ≠ some .date then
        Clauses.fail (.invalidJson "$relativeTime can only be used with Date field")
      else
        Clauses.given (relativeTime now v) fun t => .test (.compares s.operand c (.timestamp t))
    else .test (.compares (s.comparedWith v) c (Encoding.untyped v))

/-! ## All operators of a constraint -/

/-- The conditions of a constraint's operators, in a fixed order. -/
def constraint (now : Time.Instant) (s : Subject) (ops : Document) : Clauses :=
  let op (name : String) : Option Json := Fields.get? name ops
  let under (name inner : String) : Option Json := (op name).bind (·.get? inner)
  let opening := [dottedMembership s false (op "$in"), dottedMembership s true (op "$nin"),
    notEqual s (op "$ne")]
  let rest := [equal s (op "$eq"), membership s "$in" false (op "$in"),
    membership s "$nin" true (op "$nin"), all s (op "$all"), present s (op "$exists"),
    containedBy s (op "$containedBy"), text s (op "$text"),
    nearSphere s (op "$maxDistance") (op "$nearSphere"), withinBox s (under "$within" "$box"),
    centerSphere s (under "$geoWithin" "$centerSphere"),
    withinPolygon s (under "$geoWithin" "$polygon"), intersects s (under "$geoIntersects" "$point"),
    regex s (op "$options") (op "$regex"), compare now s .greater (op "$gt"),
    compare now s .less (op "$lt"), compare now s .greaterOrEqual (op "$gte"),
    compare now s .lessOrEqual (op "$lte")]
  Clauses.concat (if endsConstraint s (op "$ne") then opening else opening ++ rest)

end Operator

end Docstore.Query
