/-!
# `DataAccess.Json.Basic`: JSON documents

The values of JSON. A number is either a whole number of 64 bits,
signed or not, or a finite floating point number; the two kinds are
never confused, so that `1` and `1.0` are different documents. An
object is the list of its members, ordered by name.

* `Json`: the documents.
* `Json.Integer`, `Json.Real`: the numbers a document can
  hold.
* `Json.ofMembers`: an object from members in any order, where the last
  of several members of one name counts.
-/

set_option autoImplicit false

namespace DataAccess

/-- A whole number that fits in 64 bits, with or without a sign. -/
structure Json.Integer where
  /-- The number. -/
  val : Int
  /-- It is not below every signed number. -/
  low : -0x8000000000000000 ≤ val := by omega
  /-- It is not above every unsigned number. -/
  high : val < 0x10000000000000000 := by omega
  deriving DecidableEq, Repr

/-- The number `n`, if it fits. -/
def Json.Integer.ofInt? (n : Int) : Option Json.Integer :=
  if h : -0x8000000000000000 ≤ n ∧ n < 0x10000000000000000 then some ⟨n, h.1, h.2⟩ else none

/-- A signed number of 64 bits. -/
def Json.Integer.ofInt64 (i : Int64) : Json.Integer :=
  ⟨i.toInt, by have := i.le_toInt; omega, by have := i.toInt_lt; omega⟩

/-- A signed number of 32 bits. -/
def Json.Integer.ofInt32 (i : Int32) : Json.Integer :=
  ⟨i.toInt, by have := i.le_toInt; omega, by have := i.toInt_lt; omega⟩

/-- An unsigned number of 64 bits. -/
def Json.Integer.ofUInt64 (n : UInt64) : Json.Integer :=
  ⟨n.toNat, by have := n.toNat_lt; omega, by have := n.toNat_lt; omega⟩

/-- A byte. -/
def Json.Integer.ofUInt8 (n : UInt8) : Json.Integer :=
  ⟨n.toNat, by have := n.toNat_lt; omega, by have := n.toNat_lt; omega⟩

/-- The signed number of 64 bits, if it is one. -/
def Json.Integer.toInt64? (n : Json.Integer) : Option Int64 :=
  if n.val < 0x8000000000000000 then some (Int64.ofInt n.val) else none

/-- A floating point number that is neither infinite nor the result of
an undefined operation. -/
structure Json.Real where
  /-- The number. -/
  val : Float
  finite : val.isFinite = true

/-- The number `x`, if it is finite. -/
def Json.Real.ofFloat? (x : Float) : Option Json.Real :=
  if h : x.isFinite = true then some ⟨x, h⟩ else none

/-- A JSON document. -/
inductive Json where
  /-- The document `null`. -/
  | null
  /-- A truth value. -/
  | bool (b : Bool)
  /-- A whole number. -/
  | integer (n : Json.Integer)
  /-- A floating point number. -/
  | real (x : Json.Real)
  /-- A text. -/
  | string (s : String)
  /-- A list of documents. -/
  | array (items : List Json)
  /-- Documents under names, in the order of the names. -/
  | object (members : List (String × Json))

/-- A floating point number as a document; `null` if it is not
finite. -/
def Json.ofFloat (x : Float) : Json :=
  match Json.Real.ofFloat? x with
  | some r => .real r
  | none => .null

/-- Members ordered by name with `value` under `name`, whatever was
there. -/
def Json.insertMember {α : Type} (name : String) (value : α) :
    List (String × α) → List (String × α)
  | [] => [(name, value)]
  | (n, v) :: rest =>
    if name < n then (name, value) :: (n, v) :: rest
    else if name = n then (name, value) :: rest
    else (n, v) :: Json.insertMember name value rest

/-- The object with the given members; of several members of one name
the last one counts. -/
def Json.ofMembers (members : List (String × Json)) : Json :=
  .object (members.foldl (fun acc m => Json.insertMember m.1 m.2 acc) [])

end DataAccess
