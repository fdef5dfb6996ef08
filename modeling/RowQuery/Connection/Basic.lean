import RowQuery.Error
import RowQuery.Log

/-!
The boundary at which statements are executed: connections prepare texts, prepared statements run
with bound values, and cursors walk over the rows of a query.
-/

namespace RowQuery

/-- A call on a cursor. -/
inductive CursorCall where
  /-- Move to the next row. -/
  | next
  /-- Lay the current row over destinations. -/
  | scan
  /-- Release the cursor. -/
  | close
  /-- Ask for the error that ended the rows. -/
  | takeError
  deriving DecidableEq, Repr

/-- Cursors over the rows of a query. There are finitely many rows, so moving on comes to an end. -/
class Cursor (κ : Type) where
  /-- A bound on the number of rows still to come. -/
  remaining : κ → Nat
  /-- Moves on, and tells whether there is a current row now. -/
  next : κ → Bool × κ
  /-- The values of the current row. -/
  row : κ → Except Error (List Value)
  /-- Releases the cursor. -/
  close : κ → κ
  /-- Hands over the error that ended the rows, if one did and is still there. -/
  takeError : κ → Except Error Unit × κ
  /-- Every row moved to is one row fewer to come. -/
  remaining_next : ∀ cursor : κ,
    (next cursor).1 = true → remaining (next cursor).2 < remaining cursor

/-- A statement ready to be run with bound values. -/
structure PreparedStatement (κ : Type) where
  /-- The first row; an error stands for it if there is none. -/
  firstRow : List Value → Except Error (List Value)
  /-- A cursor over all rows. -/
  allRows : List Value → Except Error κ
  /-- The number of rows affected. -/
  execute : List Value → Except Error Nat

/-- A connection that prepares statements. -/
structure Connection (κ : Type) where
  prepare : String → Except Error (PreparedStatement κ)

/-- What can be asked of a connection. -/
inductive Request where
  | prepare (sql : String)
  | firstRow (binds : List Value)
  | allRows (binds : List Value)
  | execute (binds : List Value)
  | cursor (call : CursorCall)

/-- One step of a call: something is asked of the connection, or something is reported. -/
inductive Action where
  | ask (request : Request)
  | report (event : LogEvent)

/-- The outcome of a call with all that was asked and reported on the way, in order. -/
structure Run (α : Type) where
  result : Except Error α
  actions : List Action := []

namespace Run

variable {α : Type}

/-- What was asked of the connection, in order. -/
def requests (run : Run α) : List Request :=
  run.actions.filterMap fun
    | .ask request => some request
    | .report _ => none

/-- What was reported, in order. -/
def events (run : Run α) : List LogEvent :=
  run.actions.filterMap fun
    | .ask _ => none
    | .report event => some event

end Run

end RowQuery
