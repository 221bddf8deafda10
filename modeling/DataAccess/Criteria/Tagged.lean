import DataAccess.Criteria.Basic
import DataAccess.Value.Tagged

/-!
# `DataAccess.Criteria.Tagged`: criteria as documents

What a criteria has come to, written down for those who look at it
from outside: its conditions and values, its orders and groupings, its
limits, and its joins in order. Numbers are texts, and values keep
their types.
-/

set_option autoImplicit false

namespace DataAccess

/-- Texts, as a document. -/
def Json.ofTexts (texts : List String) : Json :=
  .array (texts.map .string)

/-- A text that may be missing, as a document. -/
def Json.ofText? (text : Option String) : Json :=
  (text.map .string).getD .null

/-- A number of 64 bits, as a document. -/
def Json.ofUInt64 (n : UInt64) : Json :=
  .ofInt n.toNat

/-- The window with all that follows from it, as a document. -/
def Paging.tagged (p : Paging) : Json :=
  .ofMembers [
    ("page_size", .ofUInt64 p.pageSize),
    ("page", .ofUInt64 p.page),
    ("total_rows", .ofUInt64 p.totalRows),
    ("start_index", .ofUInt64 p.startIndex),
    ("page_count", .ofUInt64 p.pageCount),
    ("total_known", .bool p.isTotalKnown),
    ("has_next", .bool p.hasNext),
    ("has_previous", .bool p.hasPrevious),
    ("enabled", .bool p.enabled)]

/-- The page with all that follows from it, as a document. -/
def Page.tagged (p : Page Json) : Json :=
  .ofMembers [
    ("items", .array p.items),
    ("page", .ofUInt64 p.page),
    ("page_size", .ofUInt64 p.pageSize),
    ("total_rows", .ofUInt64 p.totalRows),
    ("page_count", .ofUInt64 p.pageCount),
    ("is_empty", .bool p.isEmpty),
    ("has_next", .bool p.hasNext)]

variable {ι : Type}

/-- The join, as a document. -/
def Join.tagged (schema : Schema ι) (j : Join ι) : Json :=
  .ofMembers [
    ("identifier", .string j.identifier),
    ("depth", .ofInt j.depth),
    ("base", .ofText? j.base),
    ("base_alias", .string j.baseAlias.text),
    ("relation", .string j.relation),
    ("base_column", .string j.baseColumn),
    ("target", .string (schema j.target).table),
    ("table", .string (schema j.target).table),
    ("id_column", .string j.idColumn),
    ("alias", .string j.tableAlias.text)]

/-- The criteria, as a document. -/
def Criteria.tagged (schema : Schema ι) (c : Criteria ι) : Json :=
  .ofMembers [
    ("where", .ofText? c.whereSql?),
    ("has_conditions", .bool !c.conditions.isEmpty),
    ("connectors", .ofTexts (c.conditions.map fun condition => condition.connector.sql)),
    ("values", .array (Value.taggedItems c.values)),
    ("orders", .ofTexts (c.orders.map fun order => order.sql)),
    ("groupings", .ofTexts (c.groupings.map fun column => column.text)),
    ("limit", (c.limit.map Json.ofUInt64).getD .null),
    ("paging", (c.paging.map Paging.tagged).getD .null),
    ("paging_enabled", .bool c.isPagingEnabled),
    ("joins", .array (c.joins.joins.map (Join.tagged schema)))]

end DataAccess
