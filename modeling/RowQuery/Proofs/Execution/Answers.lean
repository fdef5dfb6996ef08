import RowQuery.Proofs.Execution.Requests

/-!
What a connection shows of itself while a statement is executed: a first row, a delivery of rows, or
a number of rows affected. What comes of a call, and what is reported about it, is a function of
that answer, so connections that answer alike cannot be told apart.
-/

namespace RowQuery

/-- Rows in the order in which they come, and what is told behind the last of them. -/
structure Delivery where
  rows : List (Except Error (List Value))
  ending : Except Error Unit

namespace Cursor

variable {κ : Type} [Cursor κ]

/-- The rows that a cursor moves to, and what it tells once it has moved past the last of them. -/
def delivery (cursor : κ) : Delivery where
  rows := rowsToCome cursor
  ending := (Cursor.takeError (afterAll cursor
    (CursorCall.taking (rowsToCome cursor).length ++ [.next]))).1

/-- A cursor that finds no row delivers none, and tells what it does behind that move. -/
theorem delivery_of_ended {cursor : κ} (ended : ¬ (Cursor.next cursor).1 = true) :
    delivery cursor = ⟨[], (Cursor.takeError (Cursor.next cursor).2).1⟩ := by
  have rows := rowsToCome_eq_nil_iff.mpr ended
  -- Without a row there is nothing to scan, and the one move that is left finds the end.
  unfold delivery
  rw [rows]
  rfl

/-- A cursor that finds a row delivers it in front of what it delivers from there. -/
theorem delivery_of_moved {cursor : κ} (moved : (Cursor.next cursor).1 = true) :
    delivery cursor =
      ⟨Cursor.row (Cursor.next cursor).2 :: (delivery (Cursor.next cursor).2).rows,
        (delivery (Cursor.next cursor).2).ending⟩ := by
  have rows : rowsToCome cursor =
      Cursor.row (Cursor.next cursor).2 :: rowsToCome (Cursor.next cursor).2 :=
    rowsToCome_eq_cons_iff.mpr ⟨moved, rfl, rfl⟩
  -- One more row is one more move and one more scan, and the scan leaves the cursor where it is.
  unfold delivery
  rw [rows]
  rfl

end Cursor

/-- Takes up rows one after the other, each as a new element of every sequence, up to the first that
fails; a count of the rows stands for success. -/
def RowSequence.takeUp :
    List (Except Error (List Value)) → List RowSequence → Except Error Nat × List RowSequence
  | [], sequences => (.ok 0, sequences)
  | row :: rows, sequences =>
    match Destination.receive (freshElements sequences) row with
    -- What the failing row left in the fresh elements is dropped with them.
    | (.error error, _) => (.error error, sequences)
    | (.ok (), filled) =>
      let (result, grown) := takeUp rows (pushEach sequences filled)
      (result.map (· + 1), grown)

/-- Takes up a delivery. If no row fails, its ending decides. -/
def Delivery.takeUp (delivery : Delivery) (sequences : List RowSequence) :
    Except Error Nat × List RowSequence :=
  match RowSequence.takeUp delivery.rows sequences with
  | (.error error, grown) => (.error error, grown)
  | (.ok count, grown) => (delivery.ending.map fun () => count, grown)

/-- One more row in front of a delivery is taken up first. If it fails, nothing else matters. -/
theorem Delivery.takeUp_cons (row : Except Error (List Value))
    (rows : List (Except Error (List Value))) (ending : Except Error Unit)
    (sequences : List RowSequence) :
    (⟨row :: rows, ending⟩ : Delivery).takeUp sequences =
      match Destination.receive (RowSequence.freshElements sequences) row with
      | (.error error, _) => (.error error, sequences)
      | (.ok (), filled) =>
        let (result, grown) :=
          (⟨rows, ending⟩ : Delivery).takeUp (RowSequence.pushEach sequences filled)
        (result.map (· + 1), grown) := by
  simp only [takeUp, RowSequence.takeUp]
  cases Destination.receive (RowSequence.freshElements sequences) row with
  | mk outcome filled =>
    cases outcome with
    -- A row that fails ends both sides before the ending is looked at.
    | error error => rfl
    | ok _ =>
      -- The rows behind fail, or they are counted and the ending decides.
      simp only
      cases RowSequence.takeUp rows (RowSequence.pushEach sequences filled) with
      | mk result grown => cases result <;> cases ending <;> rfl

section Delivery

variable {κ : Type} [Cursor κ]

/-- Walking over a cursor takes up the rows that it delivers. If none of them fails, the cursor is
left where it tells about their end. -/
theorem takeRows_eq_takeUp (cursor : κ) (sequences : List RowSequence) :
    ((takeRows cursor sequences).result, (takeRows cursor sequences).sequences) =
        RowSequence.takeUp (Cursor.delivery cursor).rows sequences ∧
      ∀ count, (takeRows cursor sequences).result = .ok count →
        (Cursor.takeError (takeRows cursor sequences).cursor).1 =
          (Cursor.delivery cursor).ending := by
  -- The induction is on the rows to come, of which every step of the walk takes the first.
  induction rows : Cursor.rowsToCome cursor generalizing cursor sequences with
  | nil =>
    -- The walk stops where the cursor finds no row, and there the ending is told.
    have ended := Cursor.rowsToCome_eq_nil_iff.mp rows
    rw [takeRows_of_ended sequences ended, Cursor.delivery_of_ended ended]
    exact ⟨rfl, fun _ _ => rfl⟩
  | cons row rows ih =>
    obtain ⟨moved, rfl, later⟩ := Cursor.rowsToCome_eq_cons_iff.mp rows
    rw [Cursor.delivery_of_moved moved]
    simp only [RowSequence.takeUp]
    cases received : Destination.receive (RowSequence.freshElements sequences)
        (Cursor.row (Cursor.next cursor).2) with
    | mk outcome filled =>
      cases outcome with
      | error error =>
        -- A row that is refused stops the walk, so nothing is claimed about the ending.
        rw [takeRows_of_refused moved (by rw [received])]
        exact ⟨rfl, fun _ success => by contradiction⟩
      | ok _ =>
        -- The row is taken up on both sides, and so are the rows behind it.
        obtain ⟨same, ending⟩ := ih _ (RowSequence.pushEach sequences filled) later
        rw [takeRows_of_received moved received]
        refine ⟨?_, ?_⟩
        · simp only [← same]
          rfl
        · intro count success
          -- A walk that succeeds with one more row in front succeeds behind it.
          cases rest : (takeRows (Cursor.next cursor).2
              (RowSequence.pushEach sequences filled)).result with
          | error error => simp [Taken.afterRow, rest, Except.map] at success
          | ok fewer => exact ending fewer rest

/-- Walking over a cursor and closing it takes up what it delivers. -/
theorem Selection.takeAndClose_eq_takeUp (cursor : κ) (sequences : List RowSequence) :
    ((takeAndClose cursor sequences).result, (takeAndClose cursor sequences).sequences) =
      (Cursor.delivery cursor).takeUp sequences := by
  obtain ⟨same, ending⟩ := takeRows_eq_takeUp cursor sequences
  rw [takeAndClose, Delivery.takeUp, ← same]
  -- The cursor is asked for its own error only behind the last row.
  cases taken : (takeRows cursor sequences).result with
  | error error => rfl
  | ok count => rw [← ending count taken]

end Delivery

namespace Connection

variable {κ : Type} [Cursor κ]

/-- What a connection answers if the first row of a statement is asked for. -/
def firstRowOf (connection : Connection κ) (statement : Statement) : Except Error (List Value) :=
  (connection.prepare statement.sql).bind fun prepared => prepared.firstRow statement.binds

/-- What a connection answers if all rows of a statement are asked for. -/
def deliveryOf (connection : Connection κ) (statement : Statement) : Except Error Delivery :=
  (connection.prepare statement.sql).bind fun prepared =>
    (prepared.allRows statement.binds).map Cursor.delivery

/-- What a connection answers if a statement is executed. -/
def affectedBy (connection : Connection κ) (statement : Statement) : Except Error Nat :=
  (connection.prepare statement.sql).bind fun prepared => prepared.execute statement.binds

end Connection

/-- What a caller sees of a selection: how it ends, what is reported about it, and what is in the
destinations. -/
structure Outcome where
  result : Except Error Unit
  events : List LogEvent
  destinations : List Destination

/-- What a caller sees of a run. -/
def Fetched.outcome (fetched : Fetched) : Outcome :=
  ⟨fetched.result, fetched.events, fetched.destinations⟩

namespace Selection

variable {κ : Type}

/-- The report about the statement of a selection. -/
def report (selection : Selection) (operation : Operation) : LogEvent :=
  .ofStatement selection.options operation selection.toStatement.sql selection.toStatement.binds

/-- The outcome of a selection of the first row, given the connection's answer. -/
def firstOutcome (selection : Selection) (answer : Except Error (List Value))
    (destinations : List Destination) : Outcome :=
  match selection.checkRecords destinations with
  | .error error => ⟨.error error, [], destinations⟩
  | .ok () =>
    let received := Destination.receive destinations answer
    ⟨received.1, [selection.report .selectFirst], received.2⟩

/-- The outcome of a selection of all rows, given the connection's answer. -/
def allOutcome (selection : Selection) (answer : Except Error Delivery)
    (destinations : List Destination) : Outcome :=
  match selection.sequencesFor destinations, answer with
  | .error error, _ => ⟨.error error, [], destinations⟩
  | .ok _, .error error => ⟨.error error, [selection.report .selectAll], destinations⟩
  | .ok sequences, .ok delivery =>
    let taken := delivery.takeUp sequences
    -- The number of rows is told only if all of them have been taken up.
    let appended := match taken.1 with
      | .error _ => []
      | .ok count => [LogEvent.rowsAppended selection.options.level .selectAll count]
    ⟨taken.1.map fun _ => (), selection.report .selectAll :: appended,
      taken.2.map RowSequence.toDestination⟩

/-- The outcome of a selection of the first row depends on nothing but the connection's answer. -/
theorem outcome_first (selection : Selection) (connection : Connection κ)
    (destinations : List Destination) :
    (selection.first connection destinations).outcome =
      selection.firstOutcome (connection.firstRowOf selection.toStatement) destinations := by
  cases checked : selection.checkRecords destinations with
  -- Rejected destinations end the call before the connection is asked.
  | error error => simp [first, firstOutcome, checked, Fetched.outcome, Run.events]
  | ok _ =>
    cases prepared : connection.prepare selection.toStatement.sql with
    | error error =>
      -- A failure to prepare ends the call as a failure of the row does.
      have flattened := Destination.flatten_of_areFlat (areFlat_of_checkRecords checked)
      simp [first, firstOutcome, checked, Connection.firstRowOf, prepared, Except.bind,
        Destination.receive, flattened, Fetched.outcome, Run.events, preparation, report]
    | ok statement =>
      simp [first, firstOutcome, checked, Connection.firstRowOf, prepared, Except.bind,
        Fetched.outcome, Run.events, preparation, report]

/-- The outcome of a selection of all rows depends on nothing but the connection's answer. -/
theorem outcome_all [Cursor κ] (selection : Selection) (connection : Connection κ)
    (destinations : List Destination) :
    (selection.all connection destinations).outcome =
      selection.allOutcome (connection.deliveryOf selection.toStatement) destinations := by
  -- The cases are the points at which a call may end: the check, the text, the query, the rows.
  cases accepted : selection.sequencesFor destinations with
  | error error => simp [all, allOutcome, accepted, Fetched.outcome, Run.events]
  | ok sequences =>
    cases prepared : connection.prepare selection.toStatement.sql with
    | error error =>
      simp [all, allOutcome, accepted, Connection.deliveryOf, prepared, Except.bind,
        Fetched.outcome, Run.events, preparation, report]
    | ok statement =>
      cases answered : statement.allRows selection.toStatement.binds with
      | error error =>
        simp [all, allOutcome, accepted, Connection.deliveryOf, prepared, answered, Except.bind,
          Except.map, Fetched.outcome, Run.events, preparation, report]
      | ok cursor =>
        have taken := takeAndClose_eq_takeUp cursor sequences
        have answer : connection.deliveryOf selection.toStatement =
            .ok (Cursor.delivery cursor) := by
          simp [Connection.deliveryOf, prepared, answered, Except.bind, Except.map]
        simp only [allOutcome, accepted, answer, ← taken]
        -- What is called on the cursor is asked, and not reported.
        cases counted : (takeAndClose cursor sequences).result with
        | error error =>
          simp [all, accepted, prepared, answered, counted, Fetched.outcome, Run.events,
            preparation, report, Except.map]
        | ok count =>
          simp [all, accepted, prepared, answered, counted, Fetched.outcome, Run.events,
            preparation, report, Except.map]

end Selection

namespace Insertion

/-- The report about the statement of an insertion. -/
def report (insertion : Insertion) (row : NewRow) : LogEvent :=
  .ofStatement insertion.options .insertValues (insertion.toStatement row).sql
    (insertion.toStatement row).binds

/-- The result of an insertion, and what is reported about it, depend on nothing but the
connection's answer. -/
theorem execute_of_answer {κ : Type} (insertion : Insertion) (connection : Connection κ)
    (row : NewRow) :
    (insertion.execute connection row).result =
        (insertion.checkColumns row).bind
          (fun _ => connection.affectedBy (insertion.toStatement row)) ∧
      (insertion.execute connection row).events =
        if row.columns = [] then [] else [insertion.report row] := by
  by_cases empty : row.columns = []
  · -- A row without columns is rejected before the connection is asked, and before any report.
    simp [execute, checkColumns, empty, Except.bind, Run.events]
  · cases prepared : connection.prepare (insertion.toStatement row).sql with
    | error error =>
      simp [execute, checkColumns, empty, prepared, Connection.affectedBy, Except.bind, Run.events,
        preparation, report]
    | ok statement =>
      simp [execute, checkColumns, empty, prepared, Connection.affectedBy, Except.bind, Run.events,
        preparation, report]

end Insertion

end RowQuery
