import DataAccess.Error

/-!
# `DataAccess.Source.Pool`: pools of connections

A pool counts the connections it holds and those that it gave away, and
gives none any more once it is closed. A pool that was never connected
holds none.
-/

set_option autoImplicit false

namespace DataAccess

/-- How many connections a pool has. -/
structure PoolStats where
  /-- All connections. -/
  total : Nat
  /-- The connections that nobody uses. -/
  idle : Nat
  deriving DecidableEq, Repr

/-- The connections that are in use. -/
def PoolStats.active (s : PoolStats) : Nat :=
  s.total - s.idle

/-- A pool of connections. -/
structure Pool where
  /-- Its connections. -/
  stats : PoolStats
  /-- It was closed. -/
  closed : Bool
  deriving DecidableEq, Repr

namespace Pool

/-- A pool without connections. -/
def unconnected : Pool := ⟨⟨0, 0⟩, false⟩

/-- A pool with one connection. -/
def single : Pool := ⟨⟨1, 1⟩, false⟩

/-- The pool with its connections gone. -/
def close (_ : Pool) : Pool := ⟨⟨0, 0⟩, true⟩

/-- Gives a connection of a pool for the named kind of database. -/
def acquire (backend : String) (p : Pool) : Result Pool :=
  if p.closed then
    .error (.connection (.failed (.acquireFrom backend)
      "attempted to acquire a connection on a closed pool"))
  else
    match p.stats.idle with
    | 0 =>
      .error (.connection (.failed (.acquireFrom backend)
        "pool timed out while waiting for an open connection"))
    | n + 1 => .ok { p with stats := { p.stats with idle := n } }

/-- Takes a connection back. -/
def release (p : Pool) : Pool :=
  if p.closed then p else { p with stats := { p.stats with idle := p.stats.idle + 1 } }

end Pool

end DataAccess
