import RowQuery.Connection.Basic

/-! A connection that serves rows kept in memory and fails where it is told to. -/

namespace RowQuery

/-- What a connection in memory serves. -/
structure Memory where
  rows : List (List Value) := []
  prepareError : Option Error := none
  queryError : Option Error := none
  /-- Stands for the first row where only one is asked for. -/
  rowError : Option Error := none
  executeError : Option Error := none
  /-- The number of moves after which a cursor fails, and its error. -/
  failure : Option (Nat × Error) := none
  rowsAffected : Nat := 1

namespace Memory

/-- A cursor over rows in memory. -/
structure Rows where
  pending : List (List Value)
  current : Option (List Value) := none
  /-- The number of moves that did not fail. -/
  moves : Nat := 0
  failure : Option (Nat × Error) := none
  error : Option Error := none
  isClosed : Bool := false

namespace Rows

/-- The failure that the next move runs into. -/
def failureNow? (rows : Rows) : Option Error :=
  rows.failure.bind fun failure => if failure.1 = rows.moves then some failure.2 else none

/-- Moves to the next row; a failure leaves the rest of the rows where they are. -/
def next (rows : Rows) : Bool × Rows :=
  if rows.isClosed then (false, rows)
  else
    match rows.failureNow? with
    -- A failure is no move, so the next one runs into it again.
    | some error => (false, { rows with current := none, error := some error })
    | none =>
      match rows.pending with
      | [] => (false, { rows with current := none, moves := rows.moves + 1 })
      | row :: pending =>
        (true, { rows with pending, current := some row, moves := rows.moves + 1 })

/-- The values of the current row. -/
def row (rows : Rows) : Except Error (List Value) :=
  match rows.current with
  | some values => .ok values
  | none => .error (.driver "scan called without a current row")

/-- Releases the cursor and its current row. -/
def close (rows : Rows) : Rows :=
  { rows with current := none, isClosed := true }

/-- Hands over the stored error. -/
def takeError (rows : Rows) : Except Error Unit × Rows :=
  match rows.error with
  | some error => (.error error, { rows with error := none })
  | none => (.ok (), rows)

/-- A move that finds a row takes it off those to come. -/
theorem pending_next (rows : Rows) (moved : rows.next.1 = true) :
    rows.next.2.pending.length < rows.pending.length := by
  -- A move finds a row only if nothing else is told first: the end by a close, or a failure.
  cases closed : rows.isClosed with
  | true => simp [next, closed] at moved
  | false =>
    cases failing : rows.failureNow? with
    | some error => simp [next, closed, failing] at moved
    | none =>
      cases pending : rows.pending with
      | nil => simp [next, closed, failing, pending] at moved
      | cons row rest => simp [next, closed, failing, pending]

instance : Cursor Rows where
  remaining rows := rows.pending.length
  next := next
  row := row
  close := close
  takeError := takeError
  remaining_next := pending_next

end Rows

/-- The first row, or the error that stands for it. -/
def firstRow (memory : Memory) : Except Error (List Value) :=
  match memory.rowError, memory.rows with
  | some error, _ => .error error
  | none, values :: _ => .ok values
  | none, [] => .error (.notFound "no rows in result set")

/-- A cursor over all rows, unless the query fails. -/
def allRows (memory : Memory) : Except Error Rows :=
  match memory.queryError with
  | some error => .error error
  | none => .ok { pending := memory.rows, failure := memory.failure }

/-- The number of rows affected, unless the execution fails. -/
def execute (memory : Memory) : Except Error Nat :=
  match memory.executeError with
  | some error => .error error
  | none => .ok memory.rowsAffected

/-- The connection; it answers every statement and any bound values alike. -/
def connection (memory : Memory) : Connection Rows where
  prepare _ :=
    match memory.prepareError with
    | some error => .error error
    | none =>
      .ok {
        firstRow := fun _ => memory.firstRow
        allRows := fun _ => memory.allRows
        execute := fun _ => memory.execute }

end Memory

end RowQuery
