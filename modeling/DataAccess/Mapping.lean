import DataAccess.Criteria.Join
import DataAccess.Row
import DataAccess.Schema.Model

/-!
# `DataAccess.Mapping`: rows as entities

How a row of a find becomes an entity with the entities fetched along.
The row holds the columns of the root under the alias of the root, and
those of every joined table under the alias of its join.

* `Model.populate`: the columns of one table become the fields of one
  entity. A column that the row has not, or that is null, leaves its
  field alone.
* `Model.joined`: the entities of all joins. One without an identity
  found no match and is left out.
* `Model.settle`: every entity is attached to the one its join hangs
  off; the joins come in reverse order, so that an entity has all of
  its own before it is attached itself.
* `Model.mapRow`: the whole row.
-/

set_option autoImplicit false

namespace DataAccess.Model

variable {ι ε : Type}

/-- The label of a column in a row, under a qualifier if there is one. -/
def label (qualifier : Option String) (column : String) : String :=
  match qualifier with
  | some qualifier => qualifier ++ "." ++ column
  | none => column

/-- The column of a field in a row, unless the row has none or it is
null. -/
def columnValue? (row : Row) (qualifier : Option String) (f : Field) : Option Value :=
  match row.find? (label qualifier f.column) with
  | some (_, value) => if value.isNull then none else some value
  | none => none

/-- Gives the field of an entity the value of its column, in the shape
of its kind. -/
def populateField (m : Model ι ε) (row : Row) (qualifier : Option String) (f : Field) :
    Work ε Unit := do
  match columnValue? row qualifier f with
  | none => return
  | some value => set (← Work.ofResult (m.setValue f.name (value.coerce f.kind) (← get)))

/-- Gives the fields of an entity of type `k` the values of their
columns. If one of them is refused, the fields before it are set. -/
def populate (m : Model ι ε) (k : ι) (row : Row) (qualifier : Option String) : Work ε Unit :=
  (m.schema k).fields.forM (m.populateField row qualifier)

/-- A new entity with the columns of a row. -/
def populated (m : Model ι ε) (k : ι) (row : Row) (qualifier : Option String) : Result ε :=
  match (m.populate k row qualifier).exec (m.construct k) with
  | (.ok _, e) => .ok e
  | (.error error, _) => .error error

/-- The entities that the joins found, by the identifiers of the
joins. -/
def joined (m : Model ι ε) (row : Row) : List (Join ι) → Result (List (String × ε))
  | [] => .ok []
  | j :: js => do
    let e ← m.populated j.target row (some j.tableAlias.text)
    let rest ← joined m row js
    return if m.isNew e then rest else (j.identifier, e) :: rest

/-- Entities with the one under `identifier` replaced. -/
def replaced (identifier : String) (e : ε) (found : List (String × ε)) :
    List (String × ε) :=
  found.map fun entry => if entry.1 = identifier then (identifier, e) else entry

/-- The root with the entities of the joins attached, the first join
first. An entity whose base was not found is dropped. -/
def settle (m : Model ι ε) : List (Join ι) → ε → List (String × ε) → Result ε
  | [], root, _ => .ok root
  | j :: js, root, found =>
    match found.lookup j.identifier with
    | none => settle m js root found
    | some e =>
      match j.base with
      | none => do
        let root ← m.attach j.relation e root
        settle m js root found
      | some base =>
        match found.lookup base with
        | none => settle m js root found
        | some owner => do
          let owner ← m.attach j.relation e owner
          settle m js root (replaced base owner found)

/-- The entity of type `root` that a row holds, with the entities that
the joins fetch along. -/
def mapRow (m : Model ι ε) (root : ι) (joins : JoinRegistry ι) (row : Row) : Result ε := do
  let e ← m.populated root row (some Alias.main.text)
  let found ← m.joined row joins.joins
  m.settle joins.joins.reverse e found

end DataAccess.Model
