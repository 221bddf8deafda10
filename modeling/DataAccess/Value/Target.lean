import DataAccess.Value.Extraction
import DataAccess.Value.Tagged

/-!
# `DataAccess.Value.Target`: types of readings, by name

The types that values can be read as, for those who know the name of a
type only when the program runs. A reading is given back as a document
that keeps its type.
-/

set_option autoImplicit false

namespace DataAccess

/-- A type that values can be read as. -/
structure Target where
  carrier : Type
  /-- How values are read. -/
  readable : FromValue carrier
  /-- A reading, as a document. -/
  write : carrier → Json

namespace Target

instance (t : Target) : FromValue t.carrier := t.readable

/-- The type whose readings are values, too. -/
def ofValue {α : Type} [FromValue α] (value : α → Value) : Target :=
  ⟨α, inferInstance, fun a => (value a).tagged⟩

/-- The type of readings that may be missing. -/
def optional (t : Target) : Target :=
  ⟨Option t.carrier, inferInstance, fun a => (a.map t.write).getD .null⟩

/-- The type of a name. -/
def ofName (name : String) : Target :=
  match name with
  | "bool" => ofValue Value.bool
  | "i32" => ofValue Value.int32
  | "i64" => ofValue Value.int64
  | "u64" => ⟨UInt64, inferInstance, fun n => .tag "u64" (.ofInt n.toNat)⟩
  | "f32" => ofValue Value.float32
  | "f64" => ofValue Value.float64
  | "string" => ofValue Value.string
  | "bytes" => ofValue Value.bytes
  | "uuid" => ofValue Value.uuid
  | "datetime" => ofValue Value.moment
  | "date" => ofValue Value.date
  | "time" => ofValue Value.time
  | "json" => ofValue Value.json
  | "opt_i64" => optional (ofValue Value.int64)
  | "opt_string" => optional (ofValue Value.string)
  | _ => ofValue (id : Value → Value)

/-- A value, read as the type. -/
def read (t : Target) (v : Value) : Result Json :=
  t.write <$> v.as t.carrier

end Target

end DataAccess
