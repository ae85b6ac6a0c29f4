import Docstore.Error
import Docstore.Json.Printer

/-!
# Geometry

Points and rings of points, read from documents and checked. A polygon's ring is closed when it is
read, and keeps at least three different vertices.
-/

namespace Docstore

/-- A point; `x` is the longitude and `y` the latitude. -/
structure Point where
  x : Double
  y : Double
deriving DecidableEq, Repr

namespace Point

/-- The same place: numeric equality of both coordinates. -/
def eq (p q : Point) : Bool := Double.eq p.x q.x && Double.eq p.y q.y

/-- Whether a list holds a point at the same place. -/
def isIn (p : Point) (ps : List Point) : Bool := ps.any (·.eq p)

/-- A point as it is written in SQL literals. -/
def text (p : Point) : String :=
  "(" ++ FloatText.sql.write p.x ++ ", " ++ FloatText.sql.write p.y ++ ")"

end Point

namespace Geometry

/-- A distance on the unit sphere as meters on the ground, the earth's mean radius being 6371 km. -/
def radiansToMeters (distance : Double) : Double :=
  (distance.mul (Double.ofInt 6371)).mul (Double.ofInt 1000)

/-- Checks that a position lies on the globe. -/
def validate (latitude longitude : Double) : Result Unit :=
  if !latitude.between (-90) 90 then
    fail (.invalidJson ("GeoPoint latitude out of bounds: " ++ FloatText.sql.write latitude))
  else if !longitude.between (-180) 180 then
    fail (.invalidJson ("GeoPoint longitude out of bounds: " ++ FloatText.sql.write longitude))
  else .ok ()

/-- The point at a position on the globe. -/
def pointAt (latitude longitude : Double) : Result Point :=
  (validate latitude longitude).map fun _ => ⟨longitude, latitude⟩

/-- Reads a value with a `latitude` and a `longitude`. -/
def point (value : Json) : Result Point :=
  match (value.get? "latitude").bind Json.double?, (value.get? "longitude").bind Json.double? with
  | some latitude, some longitude => pointAt latitude longitude
  | _, _ => fail (.invalidJson ("invalid GeoPoint value: " ++ value.print))

/-- The points of a list at different places, each where it stands first. -/
def distinct (ps : List Point) : List Point :=
  ps.foldl (fun seen p => if p.isIn seen then seen else seen ++ [p]) []

/-- The points followed by the first of them, unless they end where they start. -/
def closed (ps : List Point) : List Point :=
  match ps.head?, ps.getLast? with
  | some first, some last => if first.eq last then ps else ps ++ [first]
  | _, _ => ps

/-- Closes a ring and checks that it has three different vertices. -/
def closeRing (ps : List Point) : Result (List Point) :=
  if (distinct (closed ps)).length < 3 then
    fail (.internalServerError "GeoJSON: Loop must have at least 3 different vertices")
  else .ok (closed ps)

/-- Reads a pair of latitude and longitude. -/
def vertex (pair : Json) : Result Point :=
  match (pair.item? 0).bind Json.double?, (pair.item? 1).bind Json.double? with
  | some latitude, some longitude => pointAt latitude longitude
  | _, _ => fail (.invalidJson ("invalid Polygon point: " ++ pair.print))

/-- Reads the coordinates of a polygon. -/
def polygon (coordinates : Json) : Result (List Point) :=
  match coordinates with
  | .array pairs =>
    if pairs.length < 3 then fail (.invalidJson "Polygon must have at least 3 values")
    else (pairs.mapM vertex).bind closeRing
  | _ => fail (.invalidJson ("invalid Polygon coordinates: " ++ coordinates.print))

/-- A ring as it is written in SQL literals. -/
def polygonText (ps : List Point) : String := "(" ++ ", ".intercalate (ps.map Point.text) ++ ")"

end Geometry

end Docstore
