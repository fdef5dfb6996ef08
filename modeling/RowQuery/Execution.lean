import RowQuery.Connection.Basic
import RowQuery.Destination.Assign
import RowQuery.Destination.Sequence
import RowQuery.Statement.Insertion
import RowQuery.Statement.Selection

/-!
Selections and insertions executed on a connection. A call either is rejected before anything is
sent, or prepares the text of its statement once and runs it once with the bound values.
-/

namespace RowQuery

/-- The run of a selection together with its destinations afterwards. -/
structure Fetched extends Run Unit where
  destinations : List Destination

/-- What is left when the rows of a cursor have been taken up. -/
structure Taken (κ : Type) where
  /-- The number of rows taken up, or the failure of the first one that could not be. -/
  result : Except Error Nat
  sequences : List RowSequence
  cursor : κ
  calls : List CursorCall

namespace Taken

variable {κ : Type} [Cursor κ]

/-- What is left, seen from before one more row that was taken up. -/
def afterRow (taken : Taken κ) : Taken κ :=
  { taken with result := taken.result.map (· + 1), calls := .next :: .scan :: taken.calls }

end Taken

/-- How a call that is not rejected begins: the statement is reported and then prepared. -/
def preparation (options : ExecutionOptions) (operation : Operation) (statement : Statement) :
    List Action :=
  [.report (.ofStatement options operation statement.sql statement.binds),
    .ask (.prepare statement.sql)]

variable {κ : Type} [Cursor κ]

/-- Takes up the remaining rows, for each of which every sequence grows by an element. A row that
fails ends the walk, and the sequences shrink by what they have grown for it. -/
def takeRows (cursor : κ) (sequences : List RowSequence) : Taken κ :=
  if _ : (Cursor.next cursor).1 = true then
    let moved := (Cursor.next cursor).2
    let grown := RowSequence.growEach sequences
    let elements := RowSequence.newestElements grown
    match Destination.flatten elements with
    | .error error => ⟨.error error, RowSequence.shrinkEach grown, moved, [.next]⟩
    | .ok _ =>
      let (result, filled) := Destination.receive elements (Cursor.row moved)
      -- The elements are filled in place, so a row that fails halfway has left values in them.
      let sequences := RowSequence.fillEach grown filled
      match result with
      | .error error => ⟨.error error, RowSequence.shrinkEach sequences, moved, [.next, .scan]⟩
      | .ok () => (takeRows moved sequences).afterRow
  else ⟨.ok 0, sequences, (Cursor.next cursor).2, [.next]⟩
termination_by Cursor.remaining cursor
decreasing_by exact Cursor.remaining_next cursor (by assumption)

namespace Selection

/-- Checks that destinations can take single rows of the selection. -/
def checkRecords (selection : Selection) (destinations : List Destination) : Except Error Unit := do
  selection.checkWidth (← Destination.width destinations)

/-- Takes up the first row of a selection. -/
def first (selection : Selection) (connection : Connection κ) (destinations : List Destination) :
    Fetched :=
  match selection.checkRecords destinations with
  | .error error => { result := .error error, destinations }
  | .ok () =>
    let statement := selection.toStatement
    let actions := preparation selection.options .selectFirst statement
    match connection.prepare statement.sql with
    | .error error => { result := .error error, actions, destinations }
    | .ok prepared =>
      -- An error of the row is an answer too: it is met when the row is laid over.
      let (result, destinations) :=
        Destination.receive destinations (prepared.firstRow statement.binds)
      { result, actions := actions ++ [.ask (.firstRow statement.binds)], destinations }

/-- Checks, if the options ask for it, that one element of every sequence can take a row. For that
every sequence grows by an element to be measured and shrinks again. -/
def probe (selection : Selection) (sequences : List RowSequence) :
    Except Error Unit × List RowSequence :=
  if selection.options.checkWidth then
    let grown := RowSequence.growEach sequences
    (selection.checkRecords (RowSequence.newestElements grown), RowSequence.shrinkEach grown)
  else (.ok (), sequences)

/-- What the check of sequences tells. -/
def checkSequences (selection : Selection) (sequences : List RowSequence) : Except Error Unit :=
  (selection.probe sequences).1

/-- The sequences of destinations that all rows of the selection can go to, and the destinations as
the check leaves them. -/
def accept (selection : Selection) (destinations : List Destination) :
    Except Error (List RowSequence) × List Destination :=
  match RowSequence.ofDestinations destinations with
  -- Nothing has grown yet where a destination is no sequence.
  | .error error => (.error error, destinations)
  | .ok sequences =>
    let (checked, sequences) := selection.probe sequences
    (checked.map fun () => sequences, sequences.map RowSequence.toDestination)

/-- The sequences of destinations that all rows of the selection can go to. -/
def sequencesFor (selection : Selection) (destinations : List Destination) :
    Except Error (List RowSequence) :=
  (selection.accept destinations).1

/-- Takes up every row of a cursor, asks it for its own error if no row failed, and closes it. -/
def takeAndClose (cursor : κ) (sequences : List RowSequence) : Taken κ :=
  let taken := takeRows cursor sequences
  match taken.result with
  | .error _ =>
    -- The failure of a row is what is told; the cursor is closed without being asked for another.
    { taken with cursor := Cursor.close taken.cursor, calls := taken.calls ++ [.close] }
  | .ok count =>
    let (ended, cursor) := Cursor.takeError taken.cursor
    { taken with
      result := ended.map fun () => count
      cursor := Cursor.close cursor
      calls := taken.calls ++ [.takeError, .close] }

/-- Takes up every row of a selection, each as a new element of every destination. -/
def all (selection : Selection) (connection : Connection κ) (destinations : List Destination) :
    Fetched :=
  let (accepted, destinations) := selection.accept destinations
  match accepted with
  | .error error => { result := .error error, destinations }
  | .ok sequences =>
    let statement := selection.toStatement
    let actions := preparation selection.options .selectAll statement
    match connection.prepare statement.sql with
    | .error error => { result := .error error, actions, destinations }
    | .ok prepared =>
      let actions := actions ++ [.ask (.allRows statement.binds)]
      match prepared.allRows statement.binds with
      | .error error => { result := .error error, actions, destinations }
      | .ok cursor =>
        let taken := takeAndClose cursor sequences
        let actions := actions ++ taken.calls.map fun call => .ask (.cursor call)
        -- Rows that were taken up in front of a failure stay in the destinations.
        let destinations := taken.sequences.map RowSequence.toDestination
        match taken.result with
        | .error error => { result := .error error, actions, destinations }
        | .ok count =>
          let report := LogEvent.rowsAppended selection.options.level .selectAll count
          { result := .ok (), actions := actions ++ [.report report], destinations }

end Selection

namespace Insertion

/-- Inserts a row and tells how many rows were affected. -/
def execute (insertion : Insertion) (connection : Connection κ) (row : NewRow) : Run Nat :=
  if row.columns = [] then
    -- There is no statement to tell about, so nothing is reported either.
    let reason := "insert into " ++ insertion.table ++ ": record has no columns"
    { result := .error (.validation reason) }
  else
    let statement := insertion.toStatement row
    let actions := preparation insertion.options .insertValues statement
    match connection.prepare statement.sql with
    | .error error => { result := .error error, actions }
    | .ok prepared =>
      { result := prepared.execute statement.binds
        actions := actions ++ [.ask (.execute statement.binds)] }

end Insertion

end RowQuery
