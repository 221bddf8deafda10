import DataAccess.Proofs.Support.Work
import DataAccess.Schema.Basic

/-!
# `DataAccess.Proofs.Schema.Walk`: walks along relations

A path of relations leads from one entity type to another, or nowhere.
`Schema.Leg` says what one relation of a type needs to be followed: the
type declares it, and the field it is joined through, and the type at its
end has one field for its identity and no other. `Schema.Walk` puts legs
one after another. Types may refer to each other in circles, so that a
walk may pass a type any number of times.

Of two fields or relations of one name the first one counts, so that a
path leads to one type at most (`Walk.unique`). The lookups of a
declaration succeed where a leg says so (`relation_eq_ok`,
`columnName_eq_ok`, `identityField_eq_ok`).
-/

set_option autoImplicit false

namespace DataAccess

variable {ι : Type}

/-! ### Lookups that succeed -/

namespace Declaration

variable {d : Declaration ι} {name : String}

/-- The relation of a name is the first one that has it. -/
theorem relation_eq_ok {relation : Relation ι} :
    d.relation name = .ok relation ↔ d.relations.find? (·.name == name) = some relation := by
  rw [Declaration.relation]
  cases d.relations.find? (·.name == name) <;> simp

/-- The field of a name is the first one that has it. -/
theorem field_eq_ok {f : Field} :
    d.field name = .ok f ↔ d.fields.find? (·.name == name) = some f := by
  rw [Declaration.field]
  cases d.fields.find? (·.name == name) <;> simp

/-- The column of a name is that of the first field that has it. -/
theorem columnName_eq_ok {column : String} :
    d.columnName name = .ok column
      ↔ ∃ f, d.fields.find? (·.name == name) = some f ∧ f.column = column := by
  rw [columnName, Result.bind_eq_ok]
  simp only [field_eq_ok, pure, Except.pure, Except.ok.injEq]

/-- A field of a name is found if there is one. -/
theorem exists_field_iff :
    (∃ f, d.fields.find? (·.name == name) = some f) ↔ ∃ f ∈ d.fields, f.name = name := by
  rw [← Option.isSome_iff_exists, List.find?_isSome]
  simp only [beq_iff_eq]

/-- There is an identity field just if exactly one field is marked so. -/
theorem identityField_eq_ok {f : Field} :
    d.identityField = .ok f ↔ d.fields.filter (·.identity) = [f] := by
  rw [identityField, ← identities]
  rcases d.identities with _ | ⟨g, _ | ⟨g', fields⟩⟩ <;> simp

end Declaration

/-! ### Legs and walks -/

namespace Schema

variable {schema : Schema ι}

/-- The type `kind` has the relation `relation` by the name `segment`. It
is joined through `field`, and `identity` is the one identity of the type
it leads to. -/
structure Leg (schema : Schema ι) (kind : ι) (segment : String) (relation : Relation ι)
    (field identity : Field) : Prop where
  named : (schema kind).relations.find? (·.name == segment) = some relation
  joined : (schema kind).fields.find? (·.name == relation.joinField) = some field
  identified : (schema relation.target).fields.filter (·.identity) = [identity]

/-- The relations of the path lead from one type to another. -/
inductive Walk (schema : Schema ι) : ι → List String → ι → Prop
  | here (kind : ι) : Walk schema kind [] kind
  | next {kind last : ι} {segment : String} {path : List String} {relation : Relation ι}
      {field identity : Field} : Leg schema kind segment relation field identity →
      Walk schema relation.target path last → Walk schema kind (segment :: path) last

/-- A type has one relation of a name at most. -/
theorem Leg.unique {kind : ι} {segment : String} {relation relation' : Relation ι}
    {field field' identity identity' : Field}
    (h : schema.Leg kind segment relation field identity)
    (h' : schema.Leg kind segment relation' field' identity') :
    relation = relation' ∧ field = field' ∧ identity = identity' := by
  obtain rfl := Option.some.inj (h.named.symm.trans h'.named)
  have hfield := Option.some.inj (h.joined.symm.trans h'.joined)
  have hidentity := List.singleton_inj.mp (h.identified.symm.trans h'.identified)
  exact ⟨rfl, hfield, hidentity⟩

/-- A leg follows the relation that it names. -/
theorem Leg.name_eq {kind : ι} {segment : String} {relation : Relation ι}
    {field identity : Field} (h : schema.Leg kind segment relation field identity) :
    relation.name = segment := by
  simpa using List.find?_some h.named

/-- Without segments a walk stays where it is. -/
theorem walk_nil_iff {kind last : ι} : schema.Walk kind [] last ↔ kind = last := by
  constructor
  · rintro ⟨⟩
    rfl
  · rintro rfl
    exact .here kind

/-- A path leads to one type at most. -/
theorem Walk.unique {kind last last' : ι} {path : List String}
    (h : schema.Walk kind path last) (h' : schema.Walk kind path last') : last = last' := by
  induction h with
  | here => exact walk_nil_iff.mp h'
  | next hleg _ ih =>
      cases h' with
      | next hleg' hrest' =>
          obtain ⟨rfl, -, -⟩ := hleg.unique hleg'
          exact ih hrest'

/-- A walk can be continued by another one. -/
theorem Walk.append {kind middle last : ι} {path rest : List String}
    (h : schema.Walk kind path middle) (hrest : schema.Walk middle rest last) :
    schema.Walk kind (path ++ rest) last := by
  induction h with
  | here => exact hrest
  | next hleg _ ih => exact .next hleg (ih hrest)

/-- One more leg at the end of a walk. -/
theorem Walk.snoc {kind middle : ι} {path : List String} {segment : String}
    {relation : Relation ι} {field identity : Field} (h : schema.Walk kind path middle)
    (hleg : schema.Leg middle segment relation field identity) :
    schema.Walk kind (path ++ [segment]) relation.target :=
  h.append (.next hleg (.here _))

end Schema

end DataAccess
