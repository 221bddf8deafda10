import DataAccess.Schema.Basic

/-!
# `DataAccess.Schema.Model`: entities of a schema

How instances of entity types are read and changed by the names of
their fields. A `Model` goes with a schema and says so for entities of
one Lean type, whatever that type is; instances of all entity types of
the schema are values of it.

* `Model.isNew`: an entity without an identity.
* `Model.bindValues`: the values of all fields, to be written to
  columns.
-/

set_option autoImplicit false

namespace DataAccess

/-- Entities `ε` of the types `ι`, and how they are read and
changed. -/
structure Model (ι ε : Type) where
  /-- What the entity types declare. -/
  schema : Schema ι
  /-- An empty entity of a type. -/
  construct : ι → ε
  /-- The identity of an entity, unless it was never kept. -/
  id? : ε → Option Int64
  /-- The entity with an identity. -/
  setId : Int64 → ε → ε
  /-- The value of a field. -/
  valueOf : ε → String → Result Value
  /-- The entity with a new value of a field. -/
  setValue : String → Value → ε → Result ε
  /-- The entity with another one at the end of a relation. -/
  attach : String → ε → ε → Result ε

/-- A field with the value that an entity has for it. -/
structure BoundField where
  field : Field
  value : Value

/-- The column of a bound field. -/
def BoundField.column (b : BoundField) : String :=
  b.field.column

namespace Model

variable {ι ε : Type}

/-- The entity has no identity yet. -/
def isNew (m : Model ι ε) (e : ε) : Bool :=
  (m.id? e).isNone

/-- The fields of the type `k`, with the values of the entity. -/
def bindValues (m : Model ι ε) (k : ι) (e : ε) : Result (List BoundField) :=
  (m.schema k).fields.mapM fun f => do
    let v ← m.valueOf e f.name
    return ⟨f, v⟩

end Model

end DataAccess
