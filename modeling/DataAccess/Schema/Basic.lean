import DataAccess.Error
import DataAccess.Value.Basic

/-!
# `DataAccess.Schema.Basic`: declarations of entities

What an entity type declares: its table, the fields it keeps with
their columns, the relations to other entity types, and the types that
depend on it. A schema gives every entity type its declaration. Entity
types refer to each other by the keys of the schema, so that they may
refer to each other in circles.

* `Declaration.field`, `identityField`, `columnName`, `relation`: look
  up by name, with the error of an unknown name.
* `Declaration.relationsTo`: the relations that lead to a type.
* `Declaration.validate`: the first thing that makes a declaration
  unusable: one field, and no other, is the identity; no name stands
  for two fields or relations; no column is used twice; every relation
  is joined through a field.
-/

set_option autoImplicit false

namespace DataAccess

/-- A field that an entity keeps in a column. -/
structure Field where
  /-- The name of the field. -/
  name : String
  /-- The column it is kept in. -/
  column : String
  kind : FieldKind
  /-- Whether it identifies the entity. -/
  identity : Bool
  deriving DecidableEq, Repr

/-- A relation to one entity, whose identity a field holds. -/
structure Relation (ι : Type) where
  /-- The name of the relation. -/
  name : String
  /-- The field that holds the identity of the other entity. -/
  joinField : String
  /-- The type of the other entity. -/
  target : ι
  deriving DecidableEq, Repr

/-- What an entity type declares. -/
structure Declaration (ι : Type) where
  /-- The name of the type, in messages. -/
  typeName : String
  table : String
  /-- The fields, in order. -/
  fields : List Field
  /-- The relations, in order. -/
  relations : List (Relation ι)
  /-- The types whose entities go when one of this type goes. -/
  dependents : List ι
  deriving DecidableEq, Repr

/-- The declarations of all entity types. -/
abbrev Schema (ι : Type) := ι → Declaration ι

namespace Declaration

variable {ι : Type}

/-- The field of a name. -/
def field (d : Declaration ι) (name : String) : Result Field :=
  match d.fields.find? (·.name == name) with
  | some f => .ok f
  | none => .error (.invalidField d.typeName name)

/-- The fields that are identities. -/
def identities (d : Declaration ι) : List Field :=
  d.fields.filter (·.identity)

/-- The one field that is the identity. -/
def identityField (d : Declaration ι) : Result Field :=
  match d.identities with
  | [f] => .ok f
  | [] => .error (.configuration (.noIdentity d.typeName))
  | _ :: _ :: _ => .error (.configuration (.severalIdentities d.typeName))

/-- The column of a field. -/
def columnName (d : Declaration ι) (name : String) : Result String := do
  let f ← d.field name
  return f.column

/-- The relation of a name. -/
def relation (d : Declaration ι) (name : String) : Result (Relation ι) :=
  match d.relations.find? (·.name == name) with
  | some r => .ok r
  | none => .error (.invalidField d.typeName name)

/-- The relations that lead to the type `other`. -/
def relationsTo [DecidableEq ι] (d : Declaration ι) (other : ι) : List (Relation ι) :=
  d.relations.filter (·.target = other)

/-- The first field, if any, whose name is among `names` or whose
column is among `columns`, or that repeats one of a field before it. -/
def checkFields (d : Declaration ι) (names columns : List String) :
    List Field → Result Unit
  | [] => .ok ()
  | f :: fs =>
    if names.contains f.name then .error (.configuration (.fieldTwice d.typeName f.name))
    else if columns.contains f.column then
      .error (.configuration (.columnTwice d.typeName f.column))
    else checkFields d (f.name :: names) (f.column :: columns) fs

/-- The first relation, if any, whose name is among `names` or is that
of a relation before it, or that is joined through no field. -/
def checkRelations (d : Declaration ι) (names : List String) :
    List (Relation ι) → Result Unit
  | [] => .ok ()
  | r :: rs =>
    if names.contains r.name then .error (.configuration (.nameReused d.typeName r.name))
    else do
      let _ ← d.field r.joinField
      checkRelations d (r.name :: names) rs

/-- The first thing that makes the declaration unusable. -/
def validate (d : Declaration ι) : Result Unit := do
  let _ ← d.identityField
  checkFields d [] [] d.fields
  checkRelations d (d.fields.map (·.name)) d.relations

end Declaration

end DataAccess
