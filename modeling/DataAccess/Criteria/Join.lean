import DataAccess.Criteria.Alias
import DataAccess.Schema.Basic
import DataAccess.Work

/-!
# `DataAccess.Criteria.Join`: the joins of a query

The joins that a query needs to reach the entities at the end of its
relation paths. A path is the list of relations from the root; its
identifier is the list joined by points. Every path that is asked for
has one join, and so has every part at the start of it, so that paths
share the joins they have in common.

The joins are kept in the order of their identifiers. Each one counts
the joins that hang off it, and the registry counts those that hang off
the root; a new join takes the next number at its place.

* `Join`, `JoinRegistry`: a join, and the joins of a query.
* `JoinRegistry.get?`: the join of an identifier.
* `JoinRegistry.resolve`: the join of a path, made if need be. If a
  later segment of the path fails, the joins made for the segments
  before it stay.
-/

set_option autoImplicit false

namespace DataAccess

variable {ι : Type}

/-- A join of the table of an entity type. -/
structure Join (ι : Type) where
  /-- The path from the root, its relations joined by points. -/
  identifier : String
  /-- How many relations come before the last one. -/
  depth : Nat
  /-- The identifier of the join it hangs off, unless that is the root. -/
  base : Option String
  /-- The table it hangs off. -/
  baseAlias : Alias
  /-- The last relation of the path. -/
  relation : String
  /-- The column of the base that holds the identity. -/
  baseColumn : String
  /-- The entity type that is joined. -/
  target : ι
  /-- The column of the identity of that type. -/
  idColumn : String
  /-- The table that is joined. -/
  tableAlias : Alias
  /-- How many joins hang off it. -/
  children : Nat
  deriving DecidableEq, Repr

/-- The joins of a query. -/
structure JoinRegistry (ι : Type) where
  /-- The joins, in the order of their identifiers. -/
  joins : List (Join ι)
  /-- How many joins hang off the root. -/
  topLevel : Nat
  deriving DecidableEq, Repr

namespace JoinRegistry

/-- No joins. -/
def empty : JoinRegistry ι := ⟨[], 0⟩

/-- The join of an identifier. -/
def get? (r : JoinRegistry ι) (identifier : String) : Option (Join ι) :=
  r.joins.find? (·.identifier == identifier)

/-- A list of joins with `j` at its place in the order. -/
def insertOrdered (j : Join ι) : List (Join ι) → List (Join ι)
  | [] => [j]
  | k :: ks =>
    if j.identifier < k.identifier then j :: k :: ks else k :: insertOrdered j ks

/-- The join counts one more that hangs off it, if it is the one of the
identifier. -/
def countChild (identifier : String) (j : Join ι) : Join ι :=
  if j.identifier = identifier then { j with children := j.children + 1 } else j

/-- The joins with one more that hangs off the base, and the alias of
that one: `base` is a join, or the root. -/
def nextAlias (r : JoinRegistry ι) (base : Option (Join ι)) (depth : Nat) :
    Alias × JoinRegistry ι :=
  match base with
  | none => (Alias.main.child 0 (r.topLevel + 1), { r with topLevel := r.topLevel + 1 })
  | some b =>
    (b.tableAlias.child depth (b.children + 1),
      { r with joins := r.joins.map (countChild b.identifier) })

/-- Makes the join of one more relation after `base`, at the end of the
path `identifier`. Nothing changes if it fails. -/
def create (schema : Schema ι) (root : ι) (base : Option (Join ι)) (identifier : String)
    (depth : Nat) (segment : String) : Work (JoinRegistry ι) (Join ι) := do
  let declaration := schema ((base.map (·.target)).getD root)
  let relation ← Work.ofResult (declaration.relation segment)
  let identity ← Work.ofResult (schema relation.target).identityField
  let baseColumn ← Work.ofResult (declaration.columnName relation.joinField)
  let (tableAlias, r) := (← get).nextAlias base depth
  let join : Join ι := {
    identifier := identifier
    depth := depth
    base := base.map (·.identifier)
    baseAlias := (base.map (·.tableAlias)).getD Alias.main
    relation := relation.name
    baseColumn := baseColumn
    target := relation.target
    idColumn := identity.column
    tableAlias := tableAlias
    children := 0 }
  set { r with joins := insertOrdered join r.joins }
  return join

/-- The join of one more relation after `base`, made if need be. -/
def step (schema : Schema ι) (root : ι) (base : Option (Join ι)) (depth : Nat)
    (segment : String) : Work (JoinRegistry ι) (Join ι) := do
  let identifier := match base with
    | none => segment
    | some b => b.identifier ++ "." ++ segment
  match (← get).get? identifier with
  | some join => return join
  | none => create schema root base identifier depth segment

/-- The join at the end of the relations `path` after `base`. -/
def walk (schema : Schema ι) (root : ι) (base : Join ι) (depth : Nat) :
    List String → Work (JoinRegistry ι) (Join ι)
  | [] => return base
  | segment :: path => do
    let join ← step schema root (some base) depth segment
    walk schema root join (depth + 1) path

/-- The join of a path of at most `maxDepth` relations from the root. -/
def resolve (schema : Schema ι) (root : ι) (maxDepth : Nat) (path : List String) :
    Work (JoinRegistry ι) (Join ι) := do
  let text := String.intercalate "." path
  if path.any String.isEmpty then Work.fail (.configuration (.malformedPath text))
  else if maxDepth < path.length then
    Work.fail (.configuration (.pathTooDeep text maxDepth))
  else
    match path with
    | [] => Work.fail (.configuration (.malformedPath text))
    | segment :: path => do
      let join ← step schema root none 0 segment
      walk schema root join 1 path

end JoinRegistry

end DataAccess
