import RowQuery.Error
import RowQuery.Pool.ConnectionString

/-! Pools of connections: their creation, and the refusal of closed ones. -/

namespace RowQuery

/-- A pool of connections to the place that settings describe. -/
structure Pool where
  settings : List Pool.Setting
  maxSize : Nat
  isClosed : Bool := false

namespace Pool

/-- The number of connections unless another one is asked for. -/
def defaultSize : Nat := 16

/-- A pool of at most so many connections. The number is looked at before the connection string. -/
def create (connectionString : String) (maxSize : Nat) : Except Error Pool :=
  if maxSize = 0 then .error (.validation "pool max_size must be at least 1")
  else
    match settings? connectionString with
    | some settings => .ok { settings, maxSize }
    | none => .error (.connection "invalid connection string")

/-- The pool after it is closed. -/
def close (pool : Pool) : Pool :=
  { pool with isClosed := true }

/-- Why the pool hands out no connection, if it is certain not to. -/
def refusal? (pool : Pool) : Option Error :=
  if pool.isClosed then some (.pool "Pool has been closed") else none

end Pool

end RowQuery
