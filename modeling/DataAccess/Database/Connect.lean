import DataAccess.Database.Basic
import DataAccess.Memory.Source
import DataAccess.Schema.Description
import DataAccess.Source.Options

/-!
# `DataAccess.Database.Connect`: databases of URLs

Opens the database that settings name. A SQLite database can be opened
if it is kept in memory; there are no files here, and no servers.

* `openMemory`: the state of a SQLite database of a URL.
* `DatabaseSettings.connect`: the state of the database of settings.
* `Database.description`: a database, described.
-/

set_option autoImplicit false

namespace DataAccess

/-- The failure to make a pool for the named kind of database. -/
def poolFailure {α : Type} (backend reason : String) : Result α :=
  .error (.connection (.failed (.createPool backend) reason))

/-- The SQLite database of a URL. A database whose file has no name is
kept in memory, too. -/
def openMemory (url : String) : Result Memory :=
  match Sqlite.Options.read url with
  | .error fault => poolFailure "SQLite" fault.message
  | .ok options =>
    match options.missingFileSystem? with
    | some name => poolFailure "SQLite" (Memory.Fault.noSuchFileSystem name).report
    | none =>
      if options.inMemory || options.file.isEmpty then .ok {}
      else poolFailure "SQLite" Memory.Fault.cannotOpen.report

/-- The MySQL database of a URL. There are no servers, so this always
fails. -/
def openServer (url : String) : Result Memory :=
  match Url.parse url with
  | .error flaw => .error (.configuration (.invalidUrl url flaw))
  | .ok parsed =>
    match Mysql.checkOptions parsed with
    | .error fault => poolFailure "MySQL" fault.message
    | .ok _ => poolFailure "MySQL" "pool timed out while waiting for an open connection"

/-- The database of a URL. -/
def openUrl (url : String) : Result Memory := do
  match ← Backend.ofUrl url with
  | .sqlite => openMemory url
  | .mysql => openServer url

/-- The database of settings that are valid. -/
def DatabaseSettings.connect (s : DatabaseSettings) : Result Memory :=
  match s.validate with
  | .error e => .error (.configuration (.setting e))
  | .ok _ => openUrl s.url

/-! ## Descriptions -/

/-- The backend, described. -/
def Backend.description : Backend → String
  | .mysql => "MySql"
  | .sqlite => "Sqlite"

/-- The dialect, described. -/
def Dialect.description : Dialect → String
  | .mysql => "MySqlDialect"
  | .sqlite => "SqliteDialect"

/-- The level, described. -/
def Isolation.description : Isolation → String
  | .readUncommitted => "ReadUncommitted"
  | .readCommitted => "ReadCommitted"
  | .repeatableRead => "RepeatableRead"
  | .serializable => "Serializable"

/-- The settings, described. -/
def QuerySettings.description (s : QuerySettings) : String :=
  Text.described "OrmConfig" [
    ("join_max_depth", toString s.joinMaxDepth),
    ("default_page_size", toString s.defaultPageSize.toNat),
    ("condition_marker", Text.escapedChar s.conditionMarker),
    ("isolation_level", s.isolation.description)]

/-- The database, described. -/
def Database.description {σ : Type} (db : Database σ) : String :=
  Text.described "Database" [
    ("backend", db.source.backend.description),
    ("dialect", db.dialect.description),
    ("config", db.settings.description)]

end DataAccess
