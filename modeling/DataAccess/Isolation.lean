import DataAccess.Error
import DataAccess.Text.Blank

/-!
# `DataAccess.Isolation`: isolation of transactions

The levels of isolation of the SQL standard, how they are written in
statements and in settings, and which texts name one: words in any
case, joined by underscores, hyphens or single spaces.
-/

set_option autoImplicit false

namespace DataAccess

/-- How far a transaction is kept apart from others. -/
inductive Isolation where
  | readUncommitted
  | readCommitted
  | repeatableRead
  | serializable
  deriving DecidableEq, Repr

namespace Isolation

/-- The level in a statement. -/
def sql : Isolation → String
  | .readUncommitted => "READ UNCOMMITTED"
  | .readCommitted => "READ COMMITTED"
  | .repeatableRead => "REPEATABLE READ"
  | .serializable => "SERIALIZABLE"

/-- The level in settings. -/
def name : Isolation → String
  | .readUncommitted => "read_uncommitted"
  | .readCommitted => "read_committed"
  | .repeatableRead => "repeatable_read"
  | .serializable => "serializable"

/-- Every level. -/
def all : List Isolation :=
  [.readUncommitted, .readCommitted, .repeatableRead, .serializable]

/-- A text in the spelling of names. -/
def normalized (s : String) : String :=
  String.ofList <| (Text.trim s).toList.map fun c =>
    if c = '-' ∨ c = ' ' then '_' else c.toLower

/-- The level that a text names. -/
def parse (s : String) : Except SettingError Isolation :=
  match all.find? fun level => level.name == normalized s with
  | some level => .ok level
  | none =>
    .error (.invalid "isolation_level" s
      "read_uncommitted, read_committed, repeatable_read or serializable")

/-- The names are read back as their levels. -/
theorem parse_name (level : Isolation) : parse level.name = .ok level := by
  cases level <;> rfl

end Isolation

end DataAccess
