import RowQuery.Connection.Basic
import RowQuery.Destination.Assign
import RowQuery.Statement.Basic

/-! Cursor calls one by one, in any order, as a program could make them by hand. -/

namespace RowQuery

/-- What a cursor call shows. -/
inductive CursorAnswer where
  /-- Whether there is a current row now. -/
  | moved (found : Bool)
  /-- How the row was taken up, and the destinations after that. -/
  | scanned (result : Except Error Unit) (destinations : List Destination)
  | closed
  /-- The error that ended the rows, if there is one to report. -/
  | reported (result : Except Error Unit)

/-- A cursor in use: the destinations it serves, and the calls and answers so far. -/
structure Session (κ : Type) where
  cursor : κ
  destinations : List Destination
  calls : List CursorCall := []
  answers : List CursorAnswer := []

namespace Session

variable {κ : Type} [Cursor κ]

/-- The session after a call that reached the cursor. -/
def answered (session : Session κ) (call : CursorCall) (answer : CursorAnswer) : Session κ :=
  { session with calls := session.calls ++ [call], answers := session.answers ++ [answer] }

/-- The session after one more call; destinations that take no row leave the cursor untouched. -/
def step (session : Session κ) : CursorCall → Session κ
  | .next =>
    let (found, cursor) := Cursor.next session.cursor
    { session with cursor }.answered .next (.moved found)
  | .scan =>
    match Destination.flatten session.destinations with
    | .error error =>
      -- The cursor does not see the call, so it is answered but not recorded.
      { session with answers := session.answers ++ [.scanned (.error error) session.destinations] }
    | .ok _ =>
      let (result, destinations) :=
        Destination.receive session.destinations (Cursor.row session.cursor)
      { session with destinations }.answered .scan (.scanned result destinations)
  | .close =>
    { session with cursor := Cursor.close session.cursor }.answered .close .closed
  | .takeError =>
    let (result, cursor) := Cursor.takeError session.cursor
    { session with cursor }.answered .takeError (.reported result)

/-- The session after several calls. -/
def replay (session : Session κ) (calls : List CursorCall) : Session κ :=
  calls.foldl step session

end Session

namespace Connection

variable {κ : Type} [Cursor κ]

/-- Runs a query and makes calls on its cursor. -/
def session (connection : Connection κ) (statement : Statement) (calls : List CursorCall)
    (destinations : List Destination) : Run (List CursorAnswer) × List Destination :=
  match connection.prepare statement.sql with
  | .error error => (⟨.error error, [.ask (.prepare statement.sql)]⟩, destinations)
  | .ok prepared =>
    let actions := [Action.ask (.prepare statement.sql), .ask (.allRows statement.binds)]
    match prepared.allRows statement.binds with
    | .error error => (⟨.error error, actions⟩, destinations)
    | .ok cursor =>
      -- What is called behind a failure of the connection would have no cursor to be made on.
      let final := Session.replay { cursor, destinations } calls
      (⟨.ok final.answers, actions ++ final.calls.map fun call => .ask (.cursor call)⟩,
        final.destinations)

end Connection

end RowQuery
