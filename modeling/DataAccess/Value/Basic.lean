import DataAccess.Calendar.Text
import DataAccess.Json.Basic
import DataAccess.Uuid

/-!
# `DataAccess.Value.Basic`: database values

The values that statements take as parameters and that rows hold, and
the kinds that fields of entities are declared with.

* `Value`: the values. A list of values stands for several parameters
  and is never one itself.
* `FieldKind`: the kinds.
* `Value.typeName`, `FieldKind.name`: their names in messages.
-/

set_option autoImplicit false

namespace DataAccess

/-- A database value. -/
inductive Value where
  /-- No value. -/
  | null
  /-- A truth value. -/
  | bool (b : Bool)
  /-- A signed number of 32 bits. -/
  | int32 (i : Int32)
  /-- A signed number of 64 bits. -/
  | int64 (i : Int64)
  /-- A floating point number of 32 bits. -/
  | float32 (x : Float32)
  /-- A floating point number of 64 bits. -/
  | float64 (x : Float)
  /-- A text. -/
  | string (s : String)
  | bytes (bs : List UInt8)
  /-- A unique identifier. -/
  | uuid (u : Uuid)
  | moment (m : Moment)
  /-- A day. -/
  | date (d : Date)
  | time (t : TimeOfDay)
  /-- A document. -/
  | json (j : Json)
  /-- Several values. -/
  | array (items : List Value)

namespace Value

/-- The value is null. -/
def isNull : Value → Bool
  | .null => true
  | _ => false

/-- The value is a list of values. -/
def isArray : Value → Bool
  | .array _ => true
  | _ => false

/-- The value can be compared with: it is neither null nor a list. -/
def isScalar (v : Value) : Bool :=
  !v.isNull && !v.isArray

/-- The name of the value's type. -/
def typeName : Value → String
  | .null => "null"
  | .bool _ => "bool"
  | .int32 _ => "int32"
  | .int64 _ => "int64"
  | .float32 _ => "float32"
  | .float64 _ => "float64"
  | .string _ => "string"
  | .bytes _ => "bytes"
  | .uuid _ => "uuid"
  | .moment _ => "datetime"
  | .date _ => "date"
  | .time _ => "time"
  | .json _ => "json"
  | .array _ => "array"

end Value

/-- The kind a field is declared with. -/
inductive FieldKind where
  | boolean
  | integer
  | bigInt
  | float
  | double
  | text
  | bytes
  | uuid
  | timestamp
  | date
  | time
  | json
  deriving DecidableEq, Repr

/-- The name of a kind. -/
def FieldKind.name : FieldKind → String
  | .boolean => "Boolean"
  | .integer => "Integer"
  | .bigInt => "BigInt"
  | .float => "Float"
  | .double => "Double"
  | .text => "Text"
  | .bytes => "Bytes"
  | .uuid => "Uuid"
  | .timestamp => "Timestamp"
  | .date => "Date"
  | .time => "Time"
  | .json => "Json"

/-- Every kind. -/
def FieldKind.all : List FieldKind :=
  [.boolean, .integer, .bigInt, .float, .double, .text, .bytes, .uuid, .timestamp, .date,
    .time, .json]

/-- The kind of a name. -/
def FieldKind.ofName? (name : String) : Option FieldKind :=
  all.find? fun kind => kind.name == name

end DataAccess
