import DataAccess.Error
import DataAccess.Text.Blank
import DataAccess.Url.Basic

/-!
# `DataAccess.Backend`: the databases that are spoken to

The two kinds of database and the names that settings and the schemes
of URLs give them.
-/

set_option autoImplicit false

namespace DataAccess

/-- A kind of database. -/
inductive Backend where
  /-- MySQL and MariaDB. -/
  | mysql
  | sqlite
  deriving DecidableEq, Repr

namespace Backend

/-- The name of a backend. -/
def name : Backend → String
  | .mysql => "mysql"
  | .sqlite => "sqlite"

/-- The backend that a text names, in letters of any case. No letter
outside of ASCII has a small form in these names. -/
def parse (s : String) : Result Backend :=
  match Text.asciiLower s with
  | "mysql" => .ok .mysql
  | "mariadb" => .ok .mysql
  | "sqlite" => .ok .sqlite
  | _ => .error (.configuration (.unsupportedBackend s))

/-- The backend that the scheme of a URL names. -/
def ofUrl (s : String) : Result Backend :=
  match Url.parse s with
  | .ok url => parse url.scheme
  | .error flaw => .error (.configuration (.invalidUrl s flaw))

/-- The names are read back as their backends. -/
theorem parse_name (b : Backend) : parse b.name = .ok b := by
  cases b <;> rfl

end Backend

end DataAccess
