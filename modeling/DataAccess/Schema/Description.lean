import DataAccess.Schema.Basic
import DataAccess.Text.Escaped

/-!
# `DataAccess.Schema.Description`: declarations as text

Declarations written out for people, on one line: every part under its
name, in order. A relation is described by the table it leads to, not
by the declaration of that type, so that descriptions end.
-/

set_option autoImplicit false

namespace DataAccess

/-- A description: what is described, and its parts by name. -/
def Text.described (name : String) (parts : List (String × String)) : String :=
  name ++ " \x7b " ++ String.intercalate ", " (parts.map fun p => p.1 ++ ": " ++ p.2) ++ " \x7d"

/-- A description of several things. -/
def Text.describedList (items : List String) : String :=
  "[" ++ String.intercalate ", " items ++ "]"

/-- The field, described. -/
def Field.description (f : Field) : String :=
  Text.described "FieldMeta" [
    ("name", Text.escaped f.name),
    ("column", Text.escaped f.column),
    ("kind", f.kind.name),
    ("identity", toString f.identity)]

/-- The relation, described. -/
def Relation.description {ι : Type} (schema : Schema ι) (r : Relation ι) : String :=
  Text.described "RelationMeta" [
    ("name", Text.escaped r.name),
    ("join_field", Text.escaped r.joinField),
    ("target", Text.escaped (schema r.target).table)]

/-- The declaration, described. -/
def Declaration.description {ι : Type} (schema : Schema ι) (d : Declaration ι) : String :=
  Text.described "EntityMeta" [
    ("type_name", Text.escaped d.typeName),
    ("table", Text.escaped d.table),
    ("fields", Text.describedList (d.fields.map (·.description))),
    ("relations", Text.describedList (d.relations.map (·.description schema)))]

end DataAccess
