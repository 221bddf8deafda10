import DataAccess.Source.Basic
import DataAccess.Value.Tagged

/-!
# `DataAccess.Source.Log`: what was asked of a source, as documents

A record of events, written down: each event is a list of its name, the
number of its connection, and what was sent. How it went is left out.
Statements and rows are written down, too.
-/

set_option autoImplicit false

namespace DataAccess

/-- A statement and its values, as a document. -/
def Sql.tagged (s : Sql) : Json :=
  .ofMembers [
    ("sql", .string s.text),
    ("params", .array (Value.taggedItems s.params))]

/-- A row, as a document. -/
def Row.tagged (r : Row) : Json :=
  .ofMembers [
    ("columns", .array (r.columns.map .string)),
    ("values", .array (Value.taggedItems r.values))]

/-- A statement and its values, as they were sent. -/
def Command.tagged (c : Command) : List Json :=
  [.string c.sql.text, .array (Value.taggedItems c.sql.params)]

/-- What was asked of a source, as a document. -/
def Event.tagged (e : Event) : Json :=
  let on (name : String) (c : ConnectionId) (rest : List Json) : Json :=
    .array (.string name :: .ofInt c :: rest)
  match e with
  | .acquire _ => .array [.string "acquire"]
  | .begin c level _ => on "begin" c [.string level.sql]
  | .commit c _ => on "commit" c []
  | .rollback c _ => on "rollback" c []
  | .release c _ => on "release" c []
  | .execute c command _ => on "execute" c command.tagged
  | .fetch c command _ => on "fetch" c command.tagged
  | .close => .array [.string "close"]

end DataAccess
