import SampledKmeans.Count
import SampledKmeans.Json.Number
import SampledKmeans.Json.Reader
import SampledKmeans.Point

/-!
# Rows as JSON

Each kind of row has a written form, an object with its fields in a fixed
order, and a reader beside it.  Readers accept the fields in any order and skip
others; they refuse a field that is missing or given twice.  An array with the
values of all fields in order is accepted as well.
-/

namespace SampledKmeans.Json

/-! ## Fields -/

/-- The value of a field that occurs at most once: `none` when it occurs
more often, `some none` when it does not occur. -/
def fieldOnce? (fields : List (List Nat × Json)) (name : String) : Option (Option Json) :=
  match fields.filter fun (key, _) => textOf? key == some name.toList with
  | [] => some none
  | [(_, value)] => some (some value)
  | _ => none

/-- The values of named fields, each of which may be missing.  Keys must be
texts.  An array gives the values of the first fields in order. -/
def optionalFields? (names : List String) : Json → Option (List (Option Json))
  | .object fields =>
    if fields.all fun (key, _) => (textOf? key).isSome then
      names.mapM (fieldOnce? fields)
    else
      none
  | .array items =>
    if items.length ≤ names.length then
      some (items.map some ++ List.replicate (names.length - items.length) none)
    else
      none
  | _ => none

/-- The values of named fields, none of which may be missing. -/
def fields? (names : List String) (value : Json) : Option (List Json) :=
  (optionalFields? names value).bind fun values => values.mapM id

/-- The items of an array. -/
def items? : Json → Option (List Json)
  | .array items => some items
  | _ => none

/-- The greatest index of a coordinate. -/
def maxIndex : Nat := 2 ^ 32 - 1

/-! ## Vectors -/

/-- The written form of a vector. -/
def ofVector (v : SparseVector) : Json :=
  record [
    ("indices", .array (v.indices.map fun i => ofNat i.toNat)),
    ("values", .array (v.values.map ofFloat))]

/-- Reads a vector.  It need not be a valid one. -/
def vector? (value : Json) : Option SparseVector := do
  match ← fields? ["indices", "values"] value with
  | [indices, values] =>
    let indices ← (← items? indices).mapM (nat? maxIndex)
    let values ← (← items? values).mapM float?
    return { indices := indices.map UInt32.ofNat, values }
  | _ => none

/-! ## Points, centroids, assignments -/

/-- Reads the identifier of a point. -/
def pointId? (value : Json) : Option Int :=
  int? (-2 ^ 63) (2 ^ 63 - 1) value

/-- The written form of a point. -/
def ofPoint (point : Point) : Json :=
  record [("id", ofInt point.id), ("position", ofVector point.position)]

/-- Reads a point. -/
def point? (value : Json) : Option Point := do
  match ← fields? ["id", "position"] value with
  | [id, position] => return { id := ← pointId? id, position := ← vector? position }
  | _ => none

/-- The written form of a centroid. -/
def ofCentroid (centroid : Centroid) : Json :=
  record [("id", ofNat centroid.id), ("position", ofVector centroid.position)]

/-- Reads a centroid. -/
def centroid? (value : Json) : Option Centroid := do
  match ← fields? ["id", "position"] value with
  | [id, position] => return { id := ← nat? maxCount id, position := ← vector? position }
  | _ => none

/-- The written form of an assignment. -/
def ofAssignment (row : Assignment) : Json :=
  record [
    ("point_id", ofInt row.pointId),
    ("position", ofVector row.position),
    ("centroid_id", ofNat row.centroidId)]

/-- Reads an assignment. -/
def assignment? (value : Json) : Option Assignment := do
  match ← fields? ["point_id", "position", "centroid_id"] value with
  | [pointId, position, centroidId] =>
    return {
      pointId := ← pointId? pointId
      position := ← vector? position
      centroidId := ← nat? maxCount centroidId }
  | _ => none

end SampledKmeans.Json
