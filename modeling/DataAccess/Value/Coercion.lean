import DataAccess.Json.Parser
import DataAccess.Value.Basic

/-!
# `DataAccess.Value.Coercion`: values of a declared kind

Stores report how they keep a value, not how its field is declared:
truth values come back as numbers, moments and identifiers as text.
`Value.coerce` gives such a value the shape its kind calls for. A
value that has no such shape stays as it is.
-/

set_option autoImplicit false

namespace DataAccess

/-- The nearest floating point number of 64 bits. -/
def Int64.nearestFloat (i : Int64) : Float :=
  let x := (UInt64.ofNat i.toInt.natAbs).toFloat
  if i.toInt < 0 then -x else x

/-- The nearest floating point number of 32 bits. -/
def Int64.nearestFloat32 (i : Int64) : Float32 :=
  let x := (UInt64.ofNat i.toInt.natAbs).toFloat32
  if i.toInt < 0 then -x else x

/-- The number in 32 bits, if it fits. -/
def Int64.toInt32? (i : Int64) : Option Int32 :=
  if -0x80000000 ≤ i.toInt ∧ i.toInt < 0x80000000 then some i.toInt32 else none

/-- The value in the shape that its kind calls for. -/
def Value.coerce (v : Value) (kind : FieldKind) : Value :=
  match kind, v with
  | .boolean, .int32 i => .bool (i != 0)
  | .boolean, .int64 i => .bool (i != 0)
  | .integer, .int64 i => ((Int64.toInt32? i).map Value.int32).getD v
  | .bigInt, .int32 i => .int64 i.toInt64
  | .float, .float64 x => .float32 x.toFloat32
  | .double, .float32 x => .float64 x.toFloat
  | .double, .int32 i => .float64 (Int64.nearestFloat i.toInt64)
  | .double, .int64 i => .float64 (Int64.nearestFloat i)
  | .timestamp, .string s => ((Moment.read? s).map Value.moment).getD v
  | .date, .string s => ((Date.read? s).map Value.date).getD v
  | .time, .string s => ((TimeOfDay.read? s).map Value.time).getD v
  | .uuid, .string s => ((Uuid.read? s).map Value.uuid).getD v
  | .uuid, .bytes bs => ((Uuid.ofBytes? bs).map Value.uuid).getD v
  | .json, .string s =>
    match Json.parse s with
    | .ok j => .json j
    | .error _ => v
  | _, _ => v

end DataAccess
