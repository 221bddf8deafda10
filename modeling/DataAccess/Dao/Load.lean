import DataAccess.Dao.Basic

/-!
# `DataAccess.Dao.Load`: reads

* `Dao.loadByCriteria`: the first entity of a criteria.
* `Dao.findByCriteria`: all of them, or those of its page or limit.
* `Dao.findPage`: a page with its numbers. The rows are counted only as
  long as their total is not known, and only if the page has any.
* `Dao.project`, `Dao.projectOne`: single fields of the first entity.
* `Dao.countByCriteria`, `Dao.existsByCriteria`.

A read that takes a criteria with its session gives it back with its
limits as they were.
-/

set_option autoImplicit false

namespace DataAccess.Dao

variable {σ ι ε : Type}

/-! ## Entities -/

/-- The entities in the rows of a find. -/
def fetch (dao : Dao σ ι ε) (joins : JoinRegistry ι) (statement : Statement) :
    Work (Session σ) (List ε) := do
  let rows ← dao.db.fetch statement
  Work.ofResult (rows.mapM (dao.model.mapRow dao.kind joins))

/-- The entities in the rows of a find, between the hooks. -/
def fetchHooked (dao : Dao σ ι ε) (criteria : Criteria ι) (statement : Statement) :
    Work (Session σ) (List ε) :=
  Work.enclosed (dao.hooks.beforeLoad criteria) (dao.hooks.afterLoad criteria)
    (dao.fetch criteria.joins statement)

/-- The first entity of a criteria. -/
def loadByCriteria (dao : Dao σ ι ε) : Work (Criteria ι × Session σ) (Option ε) := do
  let statement ← Database.onSubject
    (Criteria.limitedTo (some 1) fun c => c.find dao.model.schema)
  let (criteria, _) ← get
  let found ← Database.onSession (dao.read "load" (dao.fetchHooked criteria statement))
  return found.head?

/-- The entity of an identity. -/
def loadById (dao : Dao σ ι ε) (id : Int64) : Work (Session σ) (Option ε) := do
  let criteria ← Work.ofResult (dao.idCriteria id)
  onCopy criteria dao.loadByCriteria

/-- The first entity of a condition. -/
def loadByCondition (dao : Dao σ ι ε) (template : String) (values : List Value) :
    Work (Session σ) (Option ε) := do
  let criteria ← Work.ofResult (dao.conditionCriteria template values)
  onCopy criteria dao.loadByCriteria

/-- The entities of a criteria. -/
def findByCriteria (dao : Dao σ ι ε) (criteria : Criteria ι) : Work (Session σ) (List ε) :=
  dao.read "find" (dao.fetchHooked criteria (criteria.find dao.model.schema))

/-- All entities. -/
def findAll (dao : Dao σ ι ε) : Work (Session σ) (List ε) :=
  dao.findByCriteria dao.criteria

/-- The entities of a condition. -/
def findByCondition (dao : Dao σ ι ε) (template : String) (values : List Value) :
    Work (Session σ) (List ε) := do
  let criteria ← Work.ofResult (dao.conditionCriteria template values)
  dao.findByCriteria criteria

/-! ## Counts -/

/-- The number that a count reads. -/
def fetchCount (dao : Dao σ ι ε) (statement : Statement) : Work (Session σ) UInt64 := do
  match (← dao.db.fetch statement).head? with
  | some row => Work.ofResult do
    let count ← row.at? 0
    count.as UInt64
  | none => return 0

/-- How many entities a criteria has, whatever limits it has. -/
def countByCriteria (dao : Dao σ ι ε) : Work (Criteria ι × Session σ) UInt64 := do
  let statement ← Database.onSubject
    (Criteria.limitedTo none fun c => c.count dao.model.schema)
  Database.onSession (dao.read "count" (dao.fetchCount statement))

/-- How many entities there are. -/
def countAll (dao : Dao σ ι ε) : Work (Session σ) UInt64 :=
  onCopy dao.criteria dao.countByCriteria

/-- How many entities a condition has. -/
def countByCondition (dao : Dao σ ι ε) (template : String) (values : List Value) :
    Work (Session σ) UInt64 := do
  let criteria ← Work.ofResult (dao.conditionCriteria template values)
  onCopy criteria dao.countByCriteria

/-- A criteria has entities. -/
def existsByCriteria (dao : Dao σ ι ε) : Work (Criteria ι × Session σ) Bool := do
  let statement ← Database.onSubject
    (Criteria.limitedTo (some 1) fun c => c.exist dao.model.schema)
  Database.onSession (dao.read "exists" do
    let rows ← dao.db.fetch statement
    return !rows.isEmpty)

/-- There are entities. -/
def existsAny (dao : Dao σ ι ε) : Work (Session σ) Bool :=
  onCopy dao.criteria dao.existsByCriteria

/-- There is an entity of an identity. -/
def existsById (dao : Dao σ ι ε) (id : Int64) : Work (Session σ) Bool := do
  let criteria ← Work.ofResult (dao.idCriteria id)
  onCopy criteria dao.existsByCriteria

/-- A condition has entities. -/
def existsByCondition (dao : Dao σ ι ε) (template : String) (values : List Value) :
    Work (Session σ) Bool := do
  let criteria ← Work.ofResult (dao.conditionCriteria template values)
  onCopy criteria dao.existsByCriteria

/-! ## Pages -/

/-- The page of a criteria that has to be paged. -/
def pagingOf (c : Criteria ι) : Result Paging :=
  match c.paging with
  | some paging => .ok paging
  | none => .error (.invalidInput .pageOfUnpaged)

/-- The page of a paged criteria. -/
def findPage (dao : Dao σ ι ε) : Work (Criteria ι × Session σ) (Page ε) := do
  let (criteria, _) ← get
  let paging ← Work.ofResult (pagingOf criteria)
  let find := criteria.find dao.model.schema
  let count ← Database.onSubject
    (Criteria.limitedTo none fun c => c.count dao.model.schema)
  let items ← Database.onSession (dao.read "find" (dao.fetchHooked criteria find))
  if items.isEmpty || paging.isTotalKnown then return .of items paging
  else
    let total ← Database.onSession (dao.read "count" (dao.fetchCount count))
    let paging := paging.setTotal total
    Database.onSubject (modify (Criteria.setPaging paging))
    return .of items paging

/-! ## Fields -/

/-- The values of fields of the first entity of a criteria. The joins
that their names need stay registered. -/
def project (dao : Dao σ ι ε) (names : List String) :
    Work (Criteria ι × Session σ) (Option (List Value)) := do
  let columns ← Database.onSubject (names.mapM (Criteria.resolveField dao.model.schema))
  let statement ← Database.onSubject
    (Criteria.limitedTo (some 1) fun c => c.project dao.model.schema columns)
  Database.onSession (dao.read "get" do
    let rows ← dao.db.fetch statement
    return rows.head?.map (·.values))

/-- The value of one field of the first entity of a criteria, as an
`α`; null is none. -/
def projectOne (dao : Dao σ ι ε) (α : Type) [FromValue α] (name : String) :
    Work (Criteria ι × Session σ) (Option α) := do
  let values ← dao.project [name]
  Work.ofResult (Database.scalar? α (values.bind List.head?))

end DataAccess.Dao
