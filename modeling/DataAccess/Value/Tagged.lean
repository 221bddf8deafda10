import DataAccess.Value.Basic

/-!
# `DataAccess.Value.Tagged`: values as documents that keep their types

Documents from which values can be read back as they were, by readers
that know one kind of number only. Every value but null is an object
with one member, whose name is the type. Numbers are texts: whole ones
in decimal, floating point numbers as the bits of their form in
memory, in hexadecimal.

* `Json.tagged`, `Json.untagged`: documents with their numbers written
  so.
* `Value.tagged`, `Value.untagged`: values.
-/

set_option autoImplicit false

namespace DataAccess

/-- A number in hexadecimal, with zeros on the left up to `width`
digits. -/
def Text.hex (width n : Nat) : String :=
  let digits := Nat.toDigits 16 n
  String.ofList (List.replicate (width - digits.length) '0' ++ digits)

/-- The number that hexadecimal digits write. -/
def Text.ofHex (s : String) : Nat :=
  s.toList.foldl (fun n c => 16 * n + (Uuid.hexValue? c).getD 0) 0

/-- The bits of a floating point number of 64 bits; all undefined
numbers are one. -/
def Float.tagged (x : Float) : Json :=
  .string (if x.isNaN then "nan" else Text.hex 16 x.toBits.toNat)

/-- The bits of a floating point number of 32 bits. -/
def Float32.tagged (x : Float32) : Json :=
  .string (if x.isNaN then "nan" else Text.hex 8 x.toBits.toNat)

/-- The floating point number of 64 bits that bits stand for. -/
def Float.untagged (s : String) : Float :=
  if s = "nan" then 0 / 0 else Float.ofBits (UInt64.ofNat (Text.ofHex s))

/-- The floating point number of 32 bits that bits stand for. -/
def Float32.untagged (s : String) : Float32 :=
  if s = "nan" then 0 / 0 else Float32.ofBits (UInt32.ofNat (Text.ofHex s))

namespace Json

/-- The text of a document that is one. -/
def text? : Json → Option String
  | .string s => some s
  | _ => none

/-- The items of a document that is a list. -/
def items : Json → List Json
  | .array items => items
  | _ => []

/-- A whole number, or one that a text writes. -/
def number? : Json → Option Int
  | .integer n => some n.val
  | .string s => s.toInt?
  | _ => none

/-- A whole number as a text. -/
def ofInt (n : Int) : Json :=
  .string (toString n)

/-- The document under a name; null, if there is none. -/
def member (name : String) : Json → Json
  | .object members => (members.lookup name).getD .null
  | _ => .null

/-- An object with one member. -/
def tag (name : String) (j : Json) : Json :=
  .object [(name, j)]

mutual

/-- The document with its numbers tagged. -/
def tagged : Json → Json
  | .integer n => tag "$i" (ofInt n.val)
  | .real x => tag "$f" (Float.tagged x.val)
  | .array items => .array (taggedItems items)
  | .object members => .object (taggedMembers members)
  | j => j

/-- Documents with their numbers tagged. -/
def taggedItems : List Json → List Json
  | [] => []
  | j :: js => j.tagged :: taggedItems js

/-- Members with their numbers tagged. -/
def taggedMembers : List (String × Json) → List (String × Json)
  | [] => []
  | (name, j) :: rest => (name, j.tagged) :: taggedMembers rest

end

mutual

/-- The document whose numbers were tagged. -/
def untagged : Json → Json
  | .object [("$i", .string n)] => ((n.toInt?.bind Integer.ofInt?).map integer).getD .null
  | .object [("$f", .string x)] => .ofFloat (Float.untagged x)
  | .array items => .array (untaggedItems items)
  | .object members => .object (untaggedMembers members)
  | j => j

/-- The documents whose numbers were tagged. -/
def untaggedItems : List Json → List Json
  | [] => []
  | j :: js => j.untagged :: untaggedItems js

/-- The members whose numbers were tagged. -/
def untaggedMembers : List (String × Json) → List (String × Json)
  | [] => []
  | (name, j) :: rest => (name, j.untagged) :: untaggedMembers rest

end

end Json

/-- Whole numbers, as documents. -/
def Json.ofNumbers (ns : List Int) : Json :=
  .array (ns.map fun n => ((Json.Integer.ofInt? n).map Json.integer).getD .null)

/-- Bytes in hexadecimal. -/
def Json.ofBytes (bs : List UInt8) : Json :=
  .string (String.ofList (bs.flatMap Uuid.hexChars))

/-- The bytes that hexadecimal digits write. -/
def Json.bytes? (j : Json) : Option (List UInt8) :=
  j.text?.bind fun s => Uuid.bytesOfHex? s.toList

namespace Date

/-- The parts of a day. -/
def parts (d : Date) : List Int := [d.year, d.month, d.day]

/-- The day of its parts. -/
def ofParts? : List Int → Option Date
  | [year, month, day] => Date.of? year month.toNat day.toNat
  | _ => none

end Date

namespace TimeOfDay

/-- The parts of a time of day. -/
def parts (t : TimeOfDay) : List Int := [t.hour, t.minute, t.second, t.nano]

/-- The time of day of its parts. -/
def ofParts? : List Int → Option TimeOfDay
  | [hour, minute, second, nano] =>
    if h : Calendar.IsTime hour.toNat minute.toNat second.toNat nano.toNat then
      some ⟨_, _, _, _, h⟩
    else none
  | _ => none

end TimeOfDay

namespace Value

mutual

/-- The value with its type. -/
def tagged : Value → Json
  | .null => .null
  | .bool b => .tag "bool" (.bool b)
  | .int32 i => .tag "int32" (.ofInt i.toInt)
  | .int64 i => .tag "int64" (.ofInt i.toInt)
  | .float32 x => .tag "float32" (Float32.tagged x)
  | .float64 x => .tag "float64" (Float.tagged x)
  | .string s => .tag "string" (.string s)
  | .bytes bs => .tag "bytes" (.ofBytes bs)
  | .uuid u => .tag "uuid" (.ofBytes u.bytes)
  | .moment m => .tag "datetime" (.ofNumbers (m.date.parts ++ m.time.parts))
  | .date d => .tag "date" (.ofNumbers d.parts)
  | .time t => .tag "time" (.ofNumbers t.parts)
  | .json j => .tag "json" j.tagged
  | .array items => .tag "array" (.array (taggedItems items))

/-- Values with their types. -/
def taggedItems : List Value → List Json
  | [] => []
  | v :: vs => v.tagged :: taggedItems vs

end

/-- The value of a type other than a list, if the document fits. -/
def ofTag? (type : String) (j : Json) : Option Value :=
  let numbers := j.items.filterMap Json.number?
  match type, j with
  | "bool", .bool b => some (.bool b)
  | "int32", _ => j.number?.map fun n => .int32 (Int32.ofInt n)
  | "int64", _ => j.number?.map fun n => .int64 (Int64.ofInt n)
  | "float32", .string s => some (.float32 (Float32.untagged s))
  | "float64", .string s => some (.float64 (Float.untagged s))
  | "string", .string s => some (.string s)
  | "bytes", _ => j.bytes?.map .bytes
  | "uuid", _ => (j.bytes?.bind Uuid.ofBytes?).map .uuid
  | "datetime", _ => do
    let date ← Date.ofParts? (numbers.take 3)
    let time ← TimeOfDay.ofParts? (numbers.drop 3)
    return .moment ⟨date, time⟩
  | "date", _ => (Date.ofParts? numbers).map .date
  | "time", _ => (TimeOfDay.ofParts? numbers).map .time
  | "json", _ => some (.json j.untagged)
  | _, _ => none

mutual

/-- The value that a document with its type stands for; null, if it
stands for none. -/
def untagged : Json → Value
  | .object [("array", .array items)] => .array (untaggedItems items)
  | .object [(type, j)] => (ofTag? type j).getD .null
  | _ => .null

/-- The values that documents with their types stand for. -/
def untaggedItems : List Json → List Value
  | [] => []
  | j :: js => untagged j :: untaggedItems js

end

end Value

end DataAccess
