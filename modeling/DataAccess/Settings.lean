import DataAccess.Backend
import DataAccess.Isolation
import DataAccess.Text.Digits

/-!
# `DataAccess.Settings`: settings of queries and databases

The settings that shape queries and units of work, and those of a
database with its pool of connections. Both are read from variables,
each of which replaces a default, and checked as a whole.

* `QuerySettings`, `PoolSettings`, `DatabaseSettings`: the settings.
* `QuerySettings.validate`, `DatabaseSettings.validate`: the first
  setting that has no usable value.
* `QuerySettings.load`, `DatabaseSettings.load`: the settings that
  variables give.
* `QuerySettings.toJson`, `DatabaseSettings.toJson`: the settings as
  documents.
-/

set_option autoImplicit false

namespace DataAccess

/-- The settings of queries and units of work. -/
structure QuerySettings where
  /-- How many segments a fetch path may have. -/
  joinMaxDepth : Nat := 20
  /-- Rows on a page, unless said otherwise. -/
  defaultPageSize : UInt64 := 10
  /-- The character before a field in a condition. -/
  conditionMarker : Char := '@'
  /-- The isolation of transactions. -/
  isolation : Isolation := .readCommitted
  deriving DecidableEq, Repr

namespace QuerySettings

/-- The characters that cannot mark fields: blanks, and those that end
or divide a reference or stand for a parameter. -/
def isReserved (c : Char) : Bool :=
  Text.isBlank c || c == '?' || c == ')' || c == '.'

/-- The first setting, in this order, that has no usable value. -/
def validate (s : QuerySettings) : Except SettingError Unit :=
  if s.joinMaxDepth = 0 then .error (.invalid "join_max_depth" "0" "at least 1")
  else if s.defaultPageSize = 0 then .error (.invalid "default_page_size" "0" "at least 1")
  else if isReserved s.conditionMarker then
    .error (.invalid "condition_marker" (String.singleton s.conditionMarker)
      "a character that is not whitespace, '?', ')' or '.'")
  else .ok ()

end QuerySettings

/-- A variable's value, trimmed and read as a whole number up to
`bound`. -/
def Settings.readNat (bound : Nat) (field value expected : String) :
    Except SettingError Nat :=
  match Text.readNat bound (Text.trim value) with
  | .ok n => .ok n
  | .error _ => .error (.invalid field value expected)

/-- What `read` makes of a variable, or the default if it is not
set. -/
def Settings.orDefault {α : Type} (value : Option String) (default : α)
    (read : String → Except SettingError α) : Except SettingError α :=
  match value with
  | none => .ok default
  | some s => read s

/-- The settings that the variables give. -/
def QuerySettings.load (lookup : String → Option String) :
    Except SettingError QuerySettings := do
  let defaults : QuerySettings := {}
  let depth ← Settings.orDefault (lookup "ORM_JOIN_MAX_DEPTH") defaults.joinMaxDepth
    fun s => Settings.readNat (UInt64.size - 1) "join_max_depth" s "positive integer"
  let size ← Settings.orDefault (lookup "ORM_PAGE_SIZE") defaults.defaultPageSize
    fun s => UInt64.ofNat <$> Settings.readNat (UInt64.size - 1) "default_page_size" s "positive integer"
  let marker ← Settings.orDefault (lookup "ORM_CONDITION_MARKER") defaults.conditionMarker
    fun s => match s.toList with
      | [c] => .ok c
      | _ => .error (.invalid "condition_marker" s "a single character")
  let isolation ← Settings.orDefault (lookup "ORM_ISOLATION_LEVEL") defaults.isolation
    Isolation.parse
  let settings : QuerySettings := ⟨depth, size, marker, isolation⟩
  settings.validate
  return settings

/-- A span of time, in whole seconds. -/
abbrev Seconds := Nat

/-- The settings of a pool of connections. -/
structure PoolSettings where
  /-- The most connections at a time. -/
  maxConnections : UInt32 := 10
  /-- The connections that are kept. -/
  minConnections : UInt32 := 1
  /-- How long to wait for a connection. -/
  acquireTimeout : Seconds := 30
  /-- How long a connection may be idle. -/
  idleTimeout : Option Seconds := some 600
  /-- How long a connection may live. -/
  maxLifetime : Option Seconds := some 1800
  /-- Whether a connection is tried out before it is given. -/
  testBeforeAcquire : Bool := true
  deriving DecidableEq, Repr

/-- The settings of a database. -/
structure DatabaseSettings where
  /-- Where the database is. -/
  url : String
  /-- Its pool of connections. -/
  pool : PoolSettings := {}
  /-- The settings of its queries. -/
  query : QuerySettings := {}
  deriving DecidableEq, Repr

namespace DatabaseSettings

/-- The first setting, in this order, that has no usable value. -/
def validate (s : DatabaseSettings) : Except SettingError Unit := do
  match Backend.ofUrl s.url with
  | .ok _ => pure ()
  | .error _ => .error (.invalid "url" s.url "a mysql:// or sqlite: URL")
  if s.pool.maxConnections = 0 then
    .error (.invalid "max_connections" "0" "at least 1")
  if s.pool.maxConnections < s.pool.minConnections then
    .error (.invalid "min_connections" (toString s.pool.minConnections.toNat)
      s!"at most max_connections ({s.pool.maxConnections.toNat})")
  s.query.validate

/-- The settings that the variables give. -/
def load (lookup : String → Option String) : Except SettingError DatabaseSettings := do
  let some url := lookup "DATABASE_URL" | .error (.missing "DATABASE_URL")
  let defaults : PoolSettings := {}
  let max ← Settings.orDefault (lookup "DATABASE_MAX_CONNECTIONS") defaults.maxConnections
    fun s => UInt32.ofNat <$> Settings.readNat (UInt32.size - 1) "max_connections" s "positive integer"
  let min ← Settings.orDefault (lookup "DATABASE_MIN_CONNECTIONS") defaults.minConnections
    fun s => UInt32.ofNat <$> Settings.readNat (UInt32.size - 1) "min_connections" s "integer"
  let timeout ← Settings.orDefault (lookup "DATABASE_ACQUIRE_TIMEOUT") defaults.acquireTimeout
    fun s => Settings.readNat (UInt64.size - 1) "acquire_timeout" s "seconds"
  let query ← QuerySettings.load lookup
  let pool := { defaults with
    maxConnections := max, minConnections := min, acquireTimeout := timeout }
  let settings : DatabaseSettings := ⟨url, pool, query⟩
  settings.validate
  return settings

end DatabaseSettings

/-! ## Settings as documents -/

/-- A natural number below `2 ^ 64` as a document. -/
def Settings.natJson (n : Nat) : Json :=
  .integer (.ofUInt64 (UInt64.ofNat n))

/-- A span of time as a document. -/
def Settings.secondsJson (s : Seconds) : Json :=
  .ofMembers [("secs", natJson s), ("nanos", natJson 0)]

/-- The settings of queries as a document. -/
def QuerySettings.toJson (s : QuerySettings) : Json :=
  .ofMembers [
    ("join_max_depth", Settings.natJson s.joinMaxDepth),
    ("default_page_size", .integer (.ofUInt64 s.defaultPageSize)),
    ("condition_marker", .string (String.singleton s.conditionMarker)),
    ("isolation_level", .string s.isolation.name)]

/-- The settings of a pool as a document. -/
def PoolSettings.toJson (s : PoolSettings) : Json :=
  let optional (t : Option Seconds) : Json := (t.map Settings.secondsJson).getD .null
  .ofMembers [
    ("max_connections", Settings.natJson s.maxConnections.toNat),
    ("min_connections", Settings.natJson s.minConnections.toNat),
    ("acquire_timeout", Settings.secondsJson s.acquireTimeout),
    ("idle_timeout", optional s.idleTimeout),
    ("max_lifetime", optional s.maxLifetime),
    ("test_before_acquire", .bool s.testBeforeAcquire)]

/-- The settings of a database as a document. -/
def DatabaseSettings.toJson (s : DatabaseSettings) : Json :=
  .ofMembers [
    ("url", .string s.url),
    ("pool", s.pool.toJson),
    ("orm", s.query.toJson)]

end DataAccess
