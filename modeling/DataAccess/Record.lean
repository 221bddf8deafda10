import DataAccess.Schema.Model
import DataAccess.Value.Extraction
import DataAccess.Value.Tagged

/-!
# `DataAccess.Record`: entities without a type of their own

Entities that are nothing but their fields: a record holds the values
of the fields that were set, and the records attached to it. What its
fields and relations are is a declaration, so that one Lean type
serves all entity types of a schema.

* `RecordType`: a declaration, with the fields that records keep out
  of reach and the record types that relations may hold.
* `Record`: the records.
* `Record.tagged`: a record with all that is attached to it, as a
  document.
* `Record.model`: the model of a schema of record types. The identity
  of a record is the number in its first identity field.
-/

set_option autoImplicit false

namespace DataAccess

/-- A type of records. -/
structure RecordType (ι : Type) where
  declaration : Declaration ι
  /-- The fields that cannot be read or set. -/
  hidden : List String
  /-- For each relation, in order, the type of the records that it
  holds; none can be attached where there is no such type. -/
  holds : List (Option ι)

/-- An entity that is its fields. -/
structure Record (ι : Type) where
  /-- The type. -/
  kind : ι
  /-- The values of the fields that were set. -/
  values : List (String × Value)
  /-- The records at the end of its relations. -/
  related : List (String × Record ι)

namespace Record

variable {ι : Type}

/-- A list of named things with one of them set: it takes the place of
the one of that name, or comes last. -/
def insertNamed {α : Type} (name : String) (a : α) : List (String × α) → List (String × α)
  | [] => [(name, a)]
  | (n, b) :: rest => if n = name then (name, a) :: rest else (n, b) :: insertNamed name a rest

/-- The value of a field that was set. -/
def value? (r : Record ι) (field : String) : Option Value :=
  r.values.lookup field

/-- The record with a value of a field, whatever the field is. -/
def store (field : String) (v : Value) (r : Record ι) : Record ι :=
  { r with values := insertNamed field v r.values }

/-- The first identity field of a type. -/
def identity? (t : RecordType ι) : Option Field :=
  t.declaration.fields.find? (·.identity)

/-- The number in the first identity field. -/
def id? (t : RecordType ι) (r : Record ι) : Option Int64 := do
  let f ← identity? t
  match r.value? f.name with
  | some (.int64 i) => some i
  | _ => none

/-- The record with a number in its first identity field. -/
def setId (t : RecordType ι) (i : Int64) (r : Record ι) : Record ι :=
  match identity? t with
  | some f => r.store f.name (.int64 i)
  | none => r

/-- The field of a name that can be read and set. -/
def accessible (t : RecordType ι) (name : String) : Result Field := do
  let f ← t.declaration.field name
  if t.hidden.contains name then .error (.invalidField t.declaration.typeName name)
  else return f

/-- The value of a field; null, if it was never set. -/
def valueOf (t : RecordType ι) (r : Record ι) (name : String) : Result Value := do
  let _ ← accessible t name
  return (r.value? name).getD .null

/-- The record with a value of a field, converted to the kind of the
field. -/
def setValue (t : RecordType ι) (name : String) (v : Value) (r : Record ι) :
    Result (Record ι) := do
  let f ← accessible t name
  let v ← f.kind.convert v
  return r.store name v

/-- The type of the records that a relation holds. -/
def heldBy (t : RecordType ι) (relation : String) : Option ι := do
  let (_, held) ← (t.declaration.relations.zip t.holds).find? (·.1.name == relation)
  held

/-- The record with another one at the end of a relation that holds
records of that one's type. -/
def attach [DecidableEq ι] (types : ι → RecordType ι) (relation : String)
    (other r : Record ι) : Result (Record ι) :=
  match heldBy (types r.kind) relation with
  | none => .error (.invalidField (types r.kind).declaration.typeName relation)
  | some held =>
    if other.kind = held then
      .ok { r with related := insertNamed relation other r.related }
    else
      .error (.configuration (.wrongRelated relation (types held).declaration.typeName))

mutual

/-- The record, with its values and the records attached to it, as a
document that keeps their types. -/
def tagged (types : ι → RecordType ι) : Record ι → Json
  | ⟨kind, values, related⟩ =>
    let id := (id? (types kind) ⟨kind, values, []⟩).map fun i => Json.ofInt i.toInt
    .ofMembers [
      ("id", id.getD .null),
      ("values", .ofMembers (values.map fun v => (v.1, v.2.tagged))),
      ("related", .ofMembers (taggedRelated types related))]

/-- The records at the ends of relations, as documents. -/
def taggedRelated (types : ι → RecordType ι) : List (String × Record ι) → List (String × Json)
  | [] => []
  | (name, r) :: rest => (name, r.tagged types) :: taggedRelated types rest

end

/-- The records of a schema. -/
def model [DecidableEq ι] (types : ι → RecordType ι) : Model ι (Record ι) where
  schema k := (types k).declaration
  construct k := ⟨k, [], []⟩
  id? r := id? (types r.kind) r
  setId i r := setId (types r.kind) i r
  valueOf r := valueOf (types r.kind) r
  setValue name v r := setValue (types r.kind) name v r
  attach relation other r := attach types relation other r

end Record

end DataAccess
