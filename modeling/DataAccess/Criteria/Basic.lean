import DataAccess.Criteria.Condition
import DataAccess.Criteria.Join
import DataAccess.Criteria.Template
import DataAccess.Paging
import DataAccess.Settings

/-!
# `DataAccess.Criteria.Basic`: criteria

A criteria describes which entities of one type a query is about:
conditions, orders, groupings, a limit, a page, and the relations to
fetch along. Names of fields are resolved to columns as soon as they
are used, and the joins they need are registered then.

Every change is work on the criteria. A change that fails leaves the
criteria as it was; the joins made on the way are taken back
(`Criteria.keepingJoins`).

* `Criteria.new`, `Criteria.paged`: criteria without conditions.
* `Criteria.addFilter`, `addCondition`, `addOrder`, `addGrouping`,
  `addFetchPath`, `addFetches`: what a query asks for.
* `Criteria.suspendLimits`, `restoreLimits`: a query for all rows in
  between.
* `Criteria.rowSelection`: the part that says which rows are meant.
* `Criteria.resolveField`, `resolveTemplate`: names as columns.
-/

set_option autoImplicit false

namespace DataAccess

variable {ι : Type}

/-- Which entities of one type a query is about. -/
structure Criteria (ι : Type) where
  /-- The entity type. -/
  root : ι
  /-- How many relations a path may have. -/
  joinMaxDepth : Nat
  /-- The character before a field in a condition. -/
  marker : Char
  /-- The conditions, in the order they were added. -/
  conditions : List Condition := []
  /-- The orders, the first one first. -/
  orders : List Order := []
  /-- The columns that rows are grouped by. -/
  groupings : List ColumnRef := []
  /-- The most rows, unless all are wanted. -/
  limit : Option UInt64 := none
  /-- The joins of the paths in use. -/
  joins : JoinRegistry ι := .empty
  /-- The page, of a paged query. -/
  paging : Option Paging := none

/-- The limit of a criteria and whether its paging was on, put aside. -/
structure SavedLimits where
  limit : Option UInt64
  /-- Whether paging was on, of a paged query. -/
  pagingEnabled : Option Bool
  deriving DecidableEq, Repr

namespace Criteria

/-- A criteria for all entities of a type. -/
def new (root : ι) (settings : QuerySettings := {}) : Criteria ι :=
  { root := root, joinMaxDepth := settings.joinMaxDepth, marker := settings.conditionMarker }

/-- A criteria for the first page of all entities of a type. -/
def paged (root : ι) (pageSize : UInt64) (settings : QuerySettings := {}) :
    Result (Criteria ι) := do
  let paging ← Paging.start pageSize
  return { new root settings with paging := some paging }

/-- The declaration of the entity type. -/
def declaration (schema : Schema ι) (c : Criteria ι) : Declaration ι :=
  schema c.root

/-! ## Names -/

/-- Work on the joins of a criteria. -/
def onJoins {α : Type} (w : Work (JoinRegistry ι) α) : Work (Criteria ι) α :=
  w.within (·.joins) fun joins c => { c with joins := joins }

/-- Work on a criteria; if it fails, the joins are put back. -/
def keepingJoins {α : Type} (w : Work (Criteria ι) α) : Work (Criteria ι) α :=
  w.undoing (·.joins) fun joins c => { c with joins := joins }

/-- The relations and the field that a name with points writes. -/
def splitName (name : String) : List String × String :=
  let segments := (name.toList.splitOn '.').map String.ofList
  (segments.dropLast, segments.getLast?.getD "")

/-- The column that a name writes: a field of the root, or relations
and a field at their end. -/
def resolvePath (schema : Schema ι) (name : String) : Work (Criteria ι) ColumnRef := do
  let c ← get
  match splitName name with
  | ([], _) => do
    let column ← Work.ofResult ((schema c.root).columnName name)
    return ⟨.main, column⟩
  | (path, field) => do
    let join ← onJoins (JoinRegistry.resolve schema c.root c.joinMaxDepth path)
    let column ← Work.ofResult ((schema join.target).columnName field)
    return ⟨join.tableAlias, column⟩

/-- The column that a name writes; the joins it needs are registered. -/
def resolveField (schema : Schema ι) (name : String) : Work (Criteria ι) ColumnRef :=
  keepingJoins (resolvePath schema name)

/-- The reference to the root of a query, in a template. -/
def rootReference : String := "from"

/-- What a reference in a template stands for: the root, a column of
the root as it is written, or the column of a field. -/
def resolveReference (schema : Schema ι) (name : String) : Work (Criteria ι) String :=
  if name = rootReference then return Alias.main.text
  else if name.startsWith (rootReference ++ ".") then
    let column := String.ofList (name.toList.drop (rootReference.length + 1))
    return (ColumnRef.mk .main column).text
  else do
    let column ← resolvePath schema name
    return column.text

/-- A template with its references replaced. -/
def resolveTemplate (schema : Schema ι) (template : String) : Work (Criteria ι) String := do
  let c ← get
  Template.expand c.marker (resolveReference schema) template

/-! ## Conditions -/

/-- The criteria with one more condition. A total counted before no
longer holds. -/
def withCondition (condition : Condition) (c : Criteria ι) : Criteria ι :=
  { c with
    conditions := c.conditions ++ [condition]
    paging := c.paging.map Paging.resetTotal }

/-- The values that a filter compares with: the members of a list for a
membership, or else the one value. -/
def filterValues (field : String) (comparison : Comparison) (value : Value) :
    Result (List Value) :=
  match comparison, value with
  | _, .null => .error (.invalidInput .nullFilter)
  | .membership, .array items =>
    if items.isEmpty then .error (.invalidInput (.emptyMembership field))
    else if items.all Value.isScalar then .ok items
    else .error (.invalidInput (.membershipOfNonScalar field))
  | _, .array _ => .error (.invalidInput (.listWithoutMembership field))
  | _, scalar => .ok [scalar]

/-- Adds a comparison of a field with a value. -/
def addFilter (schema : Schema ι) (connector : Connector) (field : String)
    (comparison : Comparison) (value : Value) : Work (Criteria ι) Unit := do
  let values ← Work.ofResult (filterValues field comparison value)
  let column ← resolveField schema field
  modify (withCondition ⟨connector, .filter column comparison, values⟩)

/-- Adds a condition written as a template, with the values of its
placeholders. -/
def addCondition (schema : Schema ι) (connector : Connector) (template : String)
    (values : List Value) : Work (Criteria ι) Unit := do
  if (Text.trim template).isEmpty then Work.fail (.invalidInput .emptyCondition)
  if !values.all Value.isScalar then Work.fail (.invalidInput .conditionOfNonScalar)
  let text ← keepingJoins do
    let text ← resolveTemplate schema template
    let count := Template.placeholders text
    if count ≠ values.length then
      Work.fail (.invalidInput (.placeholderCount template count values.length))
    return text
  modify (withCondition ⟨connector, .template text, values⟩)

/-! ## Orders, groupings and fetches -/

/-- Adds an order by a field. -/
def addOrder (schema : Schema ι) (field : String) (direction : Direction) :
    Work (Criteria ι) Unit := do
  let column ← resolveField schema field
  modify fun c => { c with orders := c.orders ++ [⟨column, direction⟩] }

/-- Adds a grouping by a field. -/
def addGrouping (schema : Schema ι) (field : String) : Work (Criteria ι) Unit := do
  let column ← resolveField schema field
  modify fun c => { c with groupings := c.groupings ++ [column] }

/-- Fetches the entities at the end of relations along. -/
def addFetchPath (schema : Schema ι) (path : List String) : Work (Criteria ι) Unit :=
  keepingJoins do
    let c ← get
    let _ ← onJoins (JoinRegistry.resolve schema c.root c.joinMaxDepth path)

/-- The relations that a path with points writes. -/
def splitPath (path : String) : List String :=
  (path.toList.splitOn '.').map String.ofList

/-- Fetches the entities at the end of a path along. -/
def addFetch (schema : Schema ι) (path : String) : Work (Criteria ι) Unit :=
  addFetchPath schema (splitPath path)

/-- Fetches the entities at the ends of several paths along, or of none
of them if one fails. -/
def addFetches (schema : Schema ι) (paths : List String) : Work (Criteria ι) Unit :=
  keepingJoins (paths.forM (addFetch schema))

/-! ## Limits and pages -/

/-- The criteria with a limit on its rows, or without one. -/
def setLimit (limit : Option UInt64) (c : Criteria ι) : Criteria ι :=
  { c with limit := limit }

/-- The criteria with a page. -/
def setPaging (paging : Paging) (c : Criteria ι) : Criteria ι :=
  { c with paging := some paging }

/-- Moves a paged criteria to a page. -/
def setPage (page : UInt64) : Work (Criteria ι) Unit := do
  match (← get).paging with
  | none => Work.fail (.invalidInput .notPaged)
  | some paging => do
    let paging ← Work.ofResult (paging.setPage page)
    modify (setPaging paging)

/-- Statements keep to the page. -/
def isPagingEnabled (c : Criteria ι) : Bool :=
  (c.paging.map (·.enabled)).getD false

/-- The limits as they are. -/
def limits (c : Criteria ι) : SavedLimits :=
  ⟨c.limit, c.paging.map (·.enabled)⟩

/-- The criteria without a limit and with its paging off. -/
def suspendLimits (c : Criteria ι) : Criteria ι :=
  { c with limit := none, paging := c.paging.map (·.setEnabled false) }

/-- The criteria with limits put back. -/
def restoreLimits (saved : SavedLimits) (c : Criteria ι) : Criteria ι :=
  { c with
    limit := saved.limit
    paging := c.paging.map fun p =>
      match saved.pagingEnabled with
      | some enabled => p.setEnabled enabled
      | none => p }

/-- What `build` makes of the criteria with `limit` for its only limit.
The limits are put back. -/
def limitedTo {α : Type} (limit : Option UInt64) (build : Criteria ι → α) :
    Work (Criteria ι) α := do
  let saved := (← get).limits
  modify suspendLimits
  modify (setLimit limit)
  let a := build (← get)
  modify (restoreLimits saved)
  return a

/-! ## Clearing -/

/-- The criteria without conditions. -/
def clearConditions (c : Criteria ι) : Criteria ι :=
  { c with conditions := [], paging := c.paging.map Paging.resetTotal }

/-- The criteria without orders. -/
def clearOrders (c : Criteria ι) : Criteria ι :=
  { c with orders := [] }

/-- The criteria without groupings. -/
def clearGroupings (c : Criteria ι) : Criteria ι :=
  { c with groupings := [] }

/-- The criteria without joins. Conditions that refer to joined tables
have to go too. -/
def clearFetches (c : Criteria ι) : Criteria ι :=
  { c with joins := .empty }

/-- The criteria without a limit. -/
def clearLimit (c : Criteria ι) : Criteria ι :=
  { c with limit := none }

/-- The criteria without a page. -/
def clearPaging (c : Criteria ι) : Criteria ι :=
  { c with paging := none }

/-- The criteria with nothing but its page. -/
def clear (c : Criteria ι) : Criteria ι :=
  c.clearConditions.clearOrders.clearGroupings.clearFetches.clearLimit

/-- The part of the criteria that says which rows are meant: its
conditions and joins. Statements that write rows have no orders,
groupings or limits. -/
def rowSelection (c : Criteria ι) : Criteria ι :=
  { c with orders := [], groupings := [], limit := none, paging := none }

/-! ## What a statement is made of -/

/-- The values of all conditions, in order. -/
def values (c : Criteria ι) : List Value :=
  c.conditions.flatMap (·.values)

/-- The conditions in a statement, unless there are none. -/
def whereSql? (c : Criteria ι) : Option String :=
  DataAccess.whereSql? c.conditions

end Criteria

end DataAccess
