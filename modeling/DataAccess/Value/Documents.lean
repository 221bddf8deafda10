import DataAccess.Value.Basic

/-!
# `DataAccess.Value.Documents`: values and JSON

A value as a document, and a document as a value.

* `Value.toJson`: numbers stay numbers, except that a floating point
  number that is not finite becomes null; bytes become a list of
  numbers; identifiers, moments, days and times become their text.
* `Value.ofJson`: a whole number becomes one of 64 bits with a sign, or
  a floating point number if it is too large for that; an object
  stays a document.
-/

set_option autoImplicit false

namespace DataAccess

/-- The nearest floating point number to an unsigned number. -/
def Json.Integer.toFloat (n : Json.Integer) : Float :=
  let x := (UInt64.ofNat n.val.natAbs).toFloat
  if n.val < 0 then -x else x

mutual

/-- The value as a document. -/
def Value.toJson : Value → Json
  | .null => .null
  | .bool b => .bool b
  | .int32 i => .integer (.ofInt32 i)
  | .int64 i => .integer (.ofInt64 i)
  | .float32 x => .ofFloat x.toFloat
  | .float64 x => .ofFloat x
  | .string s => .string s
  | .bytes bs => .array (bs.map fun b => .integer (.ofUInt8 b))
  | .uuid u => .string u.text
  | .moment m => .string m.text
  | .date d => .string d.text
  | .time t => .string t.text
  | .json j => j
  | .array items => .array (Value.listToJson items)

/-- Several values as documents. -/
def Value.listToJson : List Value → List Json
  | [] => []
  | v :: vs => v.toJson :: Value.listToJson vs

end

mutual

/-- The document as a value. -/
def Value.ofJson : Json → Value
  | .null => .null
  | .bool b => .bool b
  | .integer n =>
    match n.toInt64? with
    | some i => .int64 i
    | none => .float64 n.toFloat
  | .real x => .float64 x.val
  | .string s => .string s
  | .array items => .array (Value.listOfJson items)
  | .object members => .json (.object members)

/-- Several documents as values. -/
def Value.listOfJson : List Json → List Value
  | [] => []
  | j :: js => Value.ofJson j :: Value.listOfJson js

end

end DataAccess
