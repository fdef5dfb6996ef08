import RowQuery.Connection.Basic
import RowQuery.Wire.Parameter
import RowQuery.Wire.Placeholder
import RowQuery.Wire.Row
import RowQuery.Text.Numeral

/-!
Statements sent to a server that answers by a script. Texts are prepared with numbered placeholders,
parameters are encoded before they are sent, and rows are read as they arrive.
-/

namespace RowQuery.Wire

open Text

/-- An error reported by the server. -/
structure ServerError where
  code : String
  message : String
  constraint : Option String := none
  deriving DecidableEq, Repr

/-- Violated constraints are told apart by the code; all other reports count as failed queries. -/
def ServerError.toError (error : ServerError) : Error :=
  let reason := error.constraint.getD "unknown" ++ ": " ++ error.message
  if error.code = "23505" then .uniqueViolation reason
  else if error.code = "23503" then .foreignKeyViolation reason
  else if error.code = "23514" then .checkViolation reason
  else .query "db error"

/-- What the server tells about a prepared statement. -/
structure Description where
  parameters : List WireType := []
  columns : List ResultColumn := []

/-- What the server answers. -/
structure Server where
  description : Description := {}
  rows : List (List WireValue) := []
  /-- The tag of the completed command. -/
  tag : String := "SELECT 0"
  prepareError : Option ServerError := none
  bindError : Option ServerError := none
  /-- An error that comes after some of the rows. -/
  rowError : Option (Nat × ServerError) := none

/-- Rows as they arrive, and how they end. -/
structure RowStream where
  rows : List (List WireValue)
  ending : Option ServerError

/-- Encodes values as parameters from a position on, up to the first that cannot be sent. -/
def encodeFrom (position : Nat) : List WireType → List Value → Except Error (List WireValue)
  | type :: types, value :: values =>
    match encode value type with
    | .error _ => .error (.query ("error serializing parameter " ++ toString position))
    | .ok parameter => (encodeFrom (position + 1) types values).map (parameter :: ·)
  | _, _ => .ok []

/-- Encodes bound values for the parameters of a statement, which must be as many. -/
def Description.encode (description : Description) (binds : List Value) :
    Except Error (List WireValue) :=
  if description.parameters.length = binds.length then encodeFrom 0 description.parameters binds
  else
    -- The numbers are compared before any value is looked at.
    let reason := "expected " ++ toString description.parameters.length ++
      " parameters but got " ++ toString binds.length
    .error (.query reason)

namespace Server

/-- Whether a text can be sent: it is ended by a zero, so it cannot hold one. -/
def isSendable (sql : String) : Bool :=
  !sql.toList.contains '\x00'

/-- Prepares a statement. -/
def prepare (server : Server) (sql : String) : Except Error Description :=
  if isSendable sql then
    match server.prepareError with
    | some error => .error error.toError
    | none => .ok server.description
  else .error (.query "error encoding message to server")

/-- The rows that arrive, and how they end. -/
def stream (server : Server) : RowStream :=
  match server.rowError with
  | some (count, error) => ⟨server.rows.take count, some error⟩
  | none => ⟨server.rows, none⟩

/-- Starts a prepared statement with bound values. -/
def start (server : Server) (binds : List Value) : Except Error RowStream :=
  match server.description.encode binds with
  -- What cannot be encoded is not sent, so the server has no say in it.
  | .error error => .error error
  | .ok _ =>
    match server.bindError with
    | some error => .error error.toError
    | none => .ok server.stream

/-- The first row; nothing that comes after it is seen. -/
def firstRow (server : Server) (binds : List Value) : Except Error (List Value) :=
  match server.start binds with
  | .error error => .error error
  | .ok ⟨cells :: _, _⟩ => readRow server.description.columns cells
  | .ok ⟨[], some error⟩ => .error error.toError
  | .ok ⟨[], none⟩ => .error (.notFound "query returned no rows")

/-- The last word of a command's tag as the number of rows affected; a word that is none is zero. -/
def affectedRows (tag : String) : Nat :=
  let word := (tag.toList.reverse.takeWhile (· ≠ ' ')).reverse
  (naturalBelow? 0x10000000000000000 word).getD 0

/-- Runs a prepared statement to its end, past any rows. -/
def execute (server : Server) (binds : List Value) : Except Error Nat :=
  match server.start binds with
  | .error error => .error error
  | .ok ⟨_, some error⟩ => .error error.toError
  | .ok ⟨_, none⟩ => .ok (affectedRows server.tag)

end Server

/-- A cursor over rows as they arrive. -/
structure Rows where
  columns : List ResultColumn
  /-- The rows still to come; none once the cursor is closed. -/
  pending : Option RowStream
  current : Option (List WireValue) := none
  error : Option Error := none

namespace Rows

/-- Releases the cursor and its current row; the stored error stays. -/
def close (rows : Rows) : Rows :=
  { rows with pending := none, current := none }

/-- Moves to the next row. The end and an error both close the cursor. -/
def next (rows : Rows) : Bool × Rows :=
  match rows.pending with
  | none => (false, rows)
  | some ⟨cells :: rest, ending⟩ =>
    (true, { rows with pending := some ⟨rest, ending⟩, current := some cells })
  -- The error outlasts the cursor, until it is asked for.
  | some ⟨[], some error⟩ => (false, { rows with error := some error.toError }.close)
  | some ⟨[], none⟩ => (false, rows.close)

/-- The values of the current row. -/
def row (rows : Rows) : Except Error (List Value) :=
  match rows.current with
  | some cells => readRow rows.columns cells
  | none => .error (.driver "scan called without a current row")

/-- Hands over the stored error. -/
def takeError (rows : Rows) : Except Error Unit × Rows :=
  match rows.error with
  | some error => (.error error, { rows with error := none })
  | none => (.ok (), rows)

/-- The number of rows still to come. -/
def remaining (rows : Rows) : Nat :=
  match rows.pending with
  | some stream => stream.rows.length
  | none => 0

/-- A move that finds a row takes it off those to come. -/
theorem remaining_next (rows : Rows) (moved : rows.next.1 = true) :
    rows.next.2.remaining < rows.remaining := by
  -- A row is found in one case alone, and there it is the first of those to come.
  unfold next at moved ⊢
  split at moved
  · simp at moved
  · next cells rest ending pending => simp [remaining, pending]
  · simp at moved
  · simp at moved

instance : Cursor Rows where
  remaining := remaining
  next := next
  row := row
  close := close
  takeError := takeError
  remaining_next := remaining_next

end Rows

namespace Server

/-- A cursor over all rows. -/
def allRows (server : Server) (binds : List Value) : Except Error Rows :=
  (server.start binds).map fun stream =>
    { columns := server.description.columns, pending := some stream }

/-- The connection to the server. -/
def connection (server : Server) : Connection Rows where
  prepare sql :=
    (server.prepare sql).map fun _ =>
      { firstRow := server.firstRow, allRows := server.allRows, execute := server.execute }

/-- The texts that requests make the server parse. -/
def parsed (requests : List Request) : List String :=
  requests.filterMap fun
    | .prepare sql => if isSendable sql then some (numberPlaceholders sql) else none
    | _ => none

/-- The parameters that requests make the server bind; those that cannot be encoded are not sent. -/
def bound (server : Server) (requests : List Request) : List (List WireValue) :=
  requests.filterMap fun
    | .firstRow binds | .allRows binds | .execute binds =>
      (server.description.encode binds).toOption
    | _ => none

end Server

/-- The ways to reach a server. -/
inductive Access where
  | client
  | transaction
  | pooledClient
  | pooledTransaction
  deriving DecidableEq, Repr

/-- The commands sent around a call: a transaction is started before it and undone after it. -/
def Access.commands : Access → List String
  | .client | .pooledClient => []
  | .transaction | .pooledTransaction => ["START TRANSACTION", "ROLLBACK"]

end RowQuery.Wire
