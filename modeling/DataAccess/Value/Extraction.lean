import DataAccess.Error
import DataAccess.Value.Coercion
import DataAccess.Value.Documents

/-!
# `DataAccess.Value.Extraction`: typed readings of a value

Which values can be read as which type, and as what.

* `FromValue`: the class of types that values can be read as. A whole
  number is read exactly or not at all; a type that some stores keep
  as text or bytes is also read from there; null is read only as an
  optional value, or as a value or document.
* `FieldKind.Carrier`: the type that fields of a kind have.
-/

set_option autoImplicit false

namespace DataAccess

/-- The types that a value can be read as. -/
class FromValue (α : Type) where
  fromValue : Value → Result α

/-- The value as an `α`. -/
def Value.as (α : Type) [FromValue α] (v : Value) : Result α :=
  FromValue.fromValue v

/-- The failure to read `v` as the type named `target`. -/
def Value.mismatch {α : Type} (v : Value) (target : String) : Result α :=
  .error (.serialization (.mismatch v.typeName target))

instance : FromValue Value where
  fromValue v := .ok v

instance : FromValue Bool where
  fromValue
    | .bool b => .ok b
    | .int32 i => .ok (i != 0)
    | .int64 i => .ok (i != 0)
    | v => v.mismatch "bool"

instance : FromValue Int32 where
  fromValue
    | .int32 i => .ok i
    | .int64 i =>
      match Int64.toInt32? i with
      | some n => .ok n
      | none => .error (.serialization (.outOfInt32 i))
    | .bool b => .ok (if b then 1 else 0)
    | v => v.mismatch "i32"

instance : FromValue Int64 where
  fromValue
    | .int32 i => .ok i.toInt64
    | .int64 i => .ok i
    | .bool b => .ok (if b then 1 else 0)
    | v => v.mismatch "i64"

instance : FromValue UInt64 where
  fromValue v := do
    let i ← v.as Int64
    if i < 0 then .error (.serialization (.negative i)) else .ok i.toUInt64

instance : FromValue Float32 where
  fromValue
    | .float32 x => .ok x
    | .float64 x => .ok x.toFloat32
    | .int32 i => .ok (Int64.nearestFloat32 i.toInt64)
    | .int64 i => .ok (Int64.nearestFloat32 i)
    | v => v.mismatch "f32"

instance : FromValue Float where
  fromValue
    | .float32 x => .ok x.toFloat
    | .float64 x => .ok x
    | .int32 i => .ok (Int64.nearestFloat i.toInt64)
    | .int64 i => .ok (Int64.nearestFloat i)
    | v => v.mismatch "f64"

instance : FromValue String where
  fromValue
    | .string s => .ok s
    | .uuid u => .ok u.text
    | .bytes bs =>
      match Text.Utf8.decode bs with
      | .ok s => .ok s
      | .error e => .error (.serialization (.notText e))
    | v => v.mismatch "alloc::string::String"

instance : FromValue (List UInt8) where
  fromValue
    | .bytes bs => .ok bs
    | .string s => .ok (Text.Utf8.encode s)
    | v => v.mismatch "alloc::vec::Vec<u8>"

instance : FromValue Uuid where
  fromValue v :=
    match v.coerce .uuid with
    | .uuid u => .ok u
    | w => w.mismatch "uuid::Uuid"

instance : FromValue Moment where
  fromValue v :=
    match v.coerce .timestamp with
    | .moment m => .ok m
    | w => w.mismatch "chrono::datetime::DateTime<chrono::offset::utc::Utc>"

instance : FromValue Date where
  fromValue v :=
    match v.coerce .date with
    | .date d => .ok d
    | .moment m => .ok m.date
    | w => w.mismatch "chrono::naive::date::NaiveDate"

instance : FromValue TimeOfDay where
  fromValue v :=
    match v.coerce .time with
    | .time t => .ok t
    | w => w.mismatch "chrono::naive::time::NaiveTime"

instance : FromValue Json where
  fromValue v :=
    match v.coerce .json with
    | .json j => .ok j
    | w => .ok w.toJson

instance {α : Type} [FromValue α] : FromValue (Option α) where
  fromValue
    | .null => .ok none
    | v => some <$> v.as α

/-- The type that fields of a kind have. -/
abbrev FieldKind.Carrier : FieldKind → Type
  | .boolean => Bool
  | .integer => Int32
  | .bigInt => Int64
  | .float => Float32
  | .double => Float
  | .text => String
  | .bytes => List UInt8
  | .uuid => Uuid
  | .timestamp => Moment
  | .date => Date
  | .time => TimeOfDay
  | .json => Json

instance (kind : FieldKind) : FromValue kind.Carrier :=
  match kind with
  | .boolean => inferInstanceAs (FromValue Bool)
  | .integer => inferInstanceAs (FromValue Int32)
  | .bigInt => inferInstanceAs (FromValue Int64)
  | .float => inferInstanceAs (FromValue Float32)
  | .double => inferInstanceAs (FromValue Float)
  | .text => inferInstanceAs (FromValue String)
  | .bytes => inferInstanceAs (FromValue (List UInt8))
  | .uuid => inferInstanceAs (FromValue Uuid)
  | .timestamp => inferInstanceAs (FromValue Moment)
  | .date => inferInstanceAs (FromValue Date)
  | .time => inferInstanceAs (FromValue TimeOfDay)
  | .json => inferInstanceAs (FromValue Json)

/-- A carried value as a database value. -/
def FieldKind.value : (kind : FieldKind) → kind.Carrier → Value
  | .boolean, b => .bool b
  | .integer, i => .int32 i
  | .bigInt, i => .int64 i
  | .float, x => .float32 x
  | .double, x => .float64 x
  | .text, s => .string s
  | .bytes, bs => .bytes bs
  | .uuid, u => .uuid u
  | .timestamp, m => .moment m
  | .date, d => .date d
  | .time, t => .time t
  | .json, j => .json j

/-- The value read as the type of a field of the given kind, and kept
as a value: null, or the reading. -/
def FieldKind.convert (kind : FieldKind) (v : Value) : Result Value := do
  match ← v.as (Option kind.Carrier) with
  | none => return .null
  | some x => return kind.value x

end DataAccess
