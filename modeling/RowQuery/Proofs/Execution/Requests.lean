import RowQuery.Proofs.Execution.Growth

/-!
What a call asks of its connection. It is rejected before it asks for anything, or it prepares its
statement once and, if that succeeds, runs it once with the bound values. The cursor of a query is
walked over row by row up to the first failure, and it is closed once, however the walk ends.
-/

namespace RowQuery

/-- What was asked of a cursor in a run, in order. -/
def Run.cursorCalls {α : Type} (run : Run α) : List CursorCall :=
  run.requests.filterMap fun
    | .cursor call => some call
    | _ => none

/-- The calls that take up so many rows: each is moved to and then laid over destinations. -/
def CursorCall.taking : Nat → List CursorCall
  | 0 => []
  | rows + 1 => .next :: .scan :: taking rows

/-- Rows are taken up without closing the cursor. -/
theorem CursorCall.count_close_taking (rows : Nat) : (taking rows).count .close = 0 := by
  -- Every row contributes a move and a scan, neither of which closes anything.
  induction rows with
  | zero => rfl
  | succ rows ih => simp [taking, ih]

namespace Cursor

variable {κ : Type} [Cursor κ]

/-- The cursor after a call. Laying a row over destinations leaves it where it is. -/
def after (cursor : κ) : CursorCall → κ
  | .next => (Cursor.next cursor).2
  | .scan => cursor
  | .close => Cursor.close cursor
  | .takeError => (Cursor.takeError cursor).2

/-- The cursor after several calls. -/
def afterAll (cursor : κ) (calls : List CursorCall) : κ :=
  calls.foldl after cursor

end Cursor

section Walk

variable {κ : Type} [Cursor κ]

/-- How a walk over a cursor goes if every row is laid over the same fresh elements: the calls that
are made, and what comes of them. -/
inductive Walks (fresh : List Destination) (cursor : κ) :
    List CursorCall → Except Error Unit → Prop where
  /-- No row fails. Behind the last one the cursor is asked for its own error, which decides. -/
  | toEnd {rows : List (Except Error (List Value))} {calls : List CursorCall}
    {ended : Except Error Unit} :
    Cursor.rowsToCome cursor = rows →
    (∀ row ∈ rows, Destination.Accepts fresh row) →
    calls = CursorCall.taking rows.length ++ [.next] →
    (Cursor.takeError (Cursor.afterAll cursor calls)).1 = ended →
    Walks fresh cursor (calls ++ [.takeError, .close]) ended
  /-- A row is the first to fail, and its failure decides. The rows behind it are not moved to, and
  the cursor is not asked for its own error. Elements that can take no row at all are not
  scanned. -/
  | toFailure {before behind : List (Except Error (List Value))} {row : Except Error (List Value)}
    {error : Error} :
    Cursor.rowsToCome cursor = before ++ row :: behind →
    (∀ earlier ∈ before, Destination.Accepts fresh earlier) →
    (Destination.receive fresh row).1 = .error error →
    Walks fresh cursor
      (CursorCall.taking before.length ++
        .next :: ((if Destination.areFlat fresh then [.scan] else []) ++ [.close]))
      (.error error)

namespace Walks

variable {fresh : List Destination} {cursor : κ} {calls : List CursorCall}
  {result : Except Error Unit}

/-- A row that is taken up comes before a walk over the rows behind it. -/
theorem cons (moved : (Cursor.next cursor).1 = true)
    (accepted : Destination.Accepts fresh (Cursor.row (Cursor.next cursor).2))
    (walk : Walks fresh (Cursor.next cursor).2 calls result) :
    Walks fresh cursor (.next :: .scan :: calls) result := by
  -- The row is the first of those to come.
  have first : ∀ rows, Cursor.rowsToCome (Cursor.next cursor).2 = rows →
      Cursor.rowsToCome cursor = Cursor.row (Cursor.next cursor).2 :: rows :=
    fun rows later => Cursor.rowsToCome_eq_cons_iff.mpr ⟨moved, rfl, later⟩
  cases walk with
  | @toEnd rows behind ended later others shape asked =>
    have all := List.forall_mem_cons.mpr ⟨accepted, others⟩
    subst shape
    -- The move and the scan lead to the cursor that the other calls start from.
    have askedBehind : (Cursor.takeError (Cursor.afterAll cursor
        (CursorCall.taking (rows.length + 1) ++ [.next]))).1 = result := asked
    exact toEnd (first rows later) all rfl askedBehind
  | toFailure later others failed =>
    have all := List.forall_mem_cons.mpr ⟨accepted, others⟩
    exact toFailure (first _ later) all failed

/-- A walk closes its cursor once. -/
theorem count_close (walk : Walks fresh cursor calls result) : calls.count .close = 1 := by
  cases walk with
  | toEnd _ _ shape _ => simp [shape, CursorCall.count_close_taking]
  | toFailure _ _ _ =>
    -- Whether or not the last row is scanned, only the last call closes anything.
    split <;> simp [CursorCall.count_close_taking]

/-- A walk succeeds exactly if no row fails and the cursor has no error of its own behind them. -/
theorem ok_iff (walk : Walks fresh cursor calls result) :
    result = .ok () ↔
      (∀ row ∈ Cursor.rowsToCome cursor, Destination.Accepts fresh row) ∧
        ∃ shorter, calls = shorter ++ [.takeError, .close] ∧
          (Cursor.takeError (Cursor.afterAll cursor shorter)).1 = .ok () := by
  cases walk with
  | toEnd rows accepted shape asked =>
    constructor
    · intro success
      exact ⟨rows ▸ accepted, _, rfl, asked.trans success⟩
    · rintro ⟨_, shorter, same, success⟩
      rw [List.append_cancel_right same] at asked
      exact asked.symm.trans success
  | @toFailure before behind row error rows accepted failed =>
    constructor
    · intro success
      contradiction
    · -- The row that failed would have been accepted.
      rintro ⟨all, _⟩
      have member : row ∈ Cursor.rowsToCome cursor := by rw [rows]; simp
      obtain ⟨filled, received, _⟩ := Destination.receive_of_accepts (all row member)
      simp [received] at failed

end Walks

end Walk

namespace Selection

variable {κ : Type} [Cursor κ]

/-- One more row in front of a walk is one more row in front of the closed walk. -/
theorem takeAndClose_of_afterRow {cursor next : κ} {sequences grown : List RowSequence}
    (walk : takeRows cursor sequences = (takeRows next grown).afterRow) :
    takeAndClose cursor sequences = (takeAndClose next grown).afterRow := by
  -- The failure or the count decides about the calls behind, and a row in front changes neither.
  rw [takeAndClose, takeAndClose, walk]
  cases taken : (takeRows next grown).result with
  | error error => simp [Taken.afterRow, taken, Except.map]
  | ok count =>
    cases ended : (Cursor.takeError (takeRows next grown).cursor).1 <;>
      simp [Taken.afterRow, taken, ended, Except.map]

/-- The rows of a cursor are taken up in a walk over it, and the calls of this walk are those that
the cursor goes through. -/
theorem takeAndClose_walks (cursor : κ) (sequences : List RowSequence) :
    Walks (RowSequence.freshElements sequences) cursor (takeAndClose cursor sequences).calls
        ((takeAndClose cursor sequences).result.map fun _ => ()) ∧
      (takeAndClose cursor sequences).cursor =
        Cursor.afterAll cursor (takeAndClose cursor sequences).calls := by
  -- The induction is on the rows to come, of which every step of the walk takes the first.
  induction rows : Cursor.rowsToCome cursor generalizing cursor sequences with
  | nil =>
    have ended := takeRows_of_ended sequences (Cursor.rowsToCome_eq_nil_iff.mp rows)
    have closed : takeAndClose cursor sequences =
        ⟨(Cursor.takeError (Cursor.next cursor).2).1.map fun _ => 0, sequences,
          Cursor.close (Cursor.takeError (Cursor.next cursor).2).2,
          [.next, .takeError, .close]⟩ := by
      rw [takeAndClose, ended]
      rfl
    rw [closed]
    -- A count that is forgotten leaves the cursor's own error or none.
    have asked : (Cursor.takeError (Cursor.afterAll cursor [.next])).1 =
        ((Cursor.takeError (Cursor.next cursor).2).1.map fun _ => 0).map fun _ => () := by
      simp only [Cursor.afterAll, List.foldl_cons, List.foldl_nil, Cursor.after]
      cases (Cursor.takeError (Cursor.next cursor).2).1 <;> rfl
    exact ⟨.toEnd rows (by simp) rfl asked, rfl⟩
  | cons row rows ih =>
    obtain ⟨moved, rfl, later⟩ := Cursor.rowsToCome_eq_cons_iff.mp rows
    by_cases accepted : Destination.Accepts (RowSequence.freshElements sequences)
        (Cursor.row (Cursor.next cursor).2)
    · obtain ⟨batch, holds, walk⟩ := takeRows_of_accepts moved accepted
      have sameFresh := RowSequence.freshElements_pushEach (GrownBy.length_of_holdRow holds)
      obtain ⟨behind, final⟩ := ih _ (RowSequence.pushEach sequences batch) later
      rw [sameFresh] at behind
      rw [takeAndClose_of_afterRow walk]
      refine ⟨?_, final⟩
      -- The count that is one higher is forgotten as well.
      have forgotten : ((takeAndClose (Cursor.next cursor).2
          (RowSequence.pushEach sequences batch)).result.map (· + 1)).map (fun _ => ()) =
          (takeAndClose (Cursor.next cursor).2
            (RowSequence.pushEach sequences batch)).result.map fun _ => () := by
        cases (takeAndClose (Cursor.next cursor).2
          (RowSequence.pushEach sequences batch)).result <;> rfl
      simp only [Taken.afterRow]
      rw [forgotten]
      exact behind.cons moved accepted
    · -- The walk ends at its first row, and the cursor is closed behind it.
      obtain ⟨error, failed⟩ := Destination.receive_of_not_accepts accepted
      have closed : takeAndClose cursor sequences =
          ⟨.error error, sequences, Cursor.close (Cursor.next cursor).2,
            .next :: ((if Destination.areFlat (RowSequence.freshElements sequences) then [.scan]
              else []) ++ [.close])⟩ := by
        rw [takeAndClose, takeRows_of_refused moved failed]
        rfl
      rw [closed]
      have first : Cursor.rowsToCome cursor =
          [] ++ Cursor.row (Cursor.next cursor).2 :: Cursor.rowsToCome (Cursor.next cursor).2 := by
        rw [rows, later, List.nil_append]
      have walk := Walks.toFailure first (fun _ none => absurd none List.not_mem_nil) failed
      refine ⟨walk, ?_⟩
      split <;> rfl

end Selection

/-- What a call asks of a connection, and its result. The check in front of it decides whether it
asks for anything, the statement is prepared once, and it is run only if that succeeds, and once.
What is called on a cursor afterwards and what comes of the run is left to `Ends`. -/
inductive Conducts {κ α β : Type} (connection : Connection κ) (check : Except Error β)
    (statement : Statement) (run : Request)
    (Ends : PreparedStatement κ → List CursorCall → Except Error α → Prop) :
    List Request → Except Error α → Prop where
  /-- The call is rejected before it asks for anything. -/
  | rejected {error : Error} :
    check = .error error → Conducts connection check statement run Ends [] (.error error)
  /-- The statement is not prepared, and the connection's error is returned as it is. -/
  | unprepared {checked : β} {error : Error} :
    check = .ok checked → connection.prepare statement.sql = .error error →
    Conducts connection check statement run Ends [.prepare statement.sql] (.error error)
  /-- The statement is prepared and then run. -/
  | carriedOut {checked : β} {prepared : PreparedStatement κ} {calls : List CursorCall}
    {result : Except Error α} :
    check = .ok checked → connection.prepare statement.sql = .ok prepared →
    Ends prepared calls result →
    Conducts connection check statement run Ends
      (.prepare statement.sql :: run :: calls.map .cursor) result

/-- How a run for the first row ends: without a cursor, and with the connection's error as it is or
with what comes of laying the row over the destinations. -/
def FirstRowEnds {κ : Type} (binds : List Value) (destinations : List Destination)
    (prepared : PreparedStatement κ) (calls : List CursorCall) (result : Except Error Unit) :
    Prop :=
  calls = [] ∧
    (∀ error, prepared.firstRow binds = .error error → result = .error error) ∧
    ∀ values, prepared.firstRow binds = .ok values →
      result = (Destination.receive destinations (.ok values)).1

/-- How a run for all rows ends: with the connection's error as it is, or in a walk over the cursor
that it returns, with fresh elements of the sequences behind the destinations. -/
inductive AllRowsEnd {κ : Type} [Cursor κ] (binds : List Value) (destinations : List Destination)
    (prepared : PreparedStatement κ) : List CursorCall → Except Error Unit → Prop where
  | unanswered {error : Error} :
    prepared.allRows binds = .error error →
    AllRowsEnd binds destinations prepared [] (.error error)
  | walked {cursor : κ} {sequences : List RowSequence} {calls : List CursorCall}
    {result : Except Error Unit} :
    prepared.allRows binds = .ok cursor → RowSequence.ofDestinations destinations = .ok sequences →
    Walks (RowSequence.freshElements sequences) cursor calls result →
    AllRowsEnd binds destinations prepared calls result

/-- How an execution ends: without a cursor, and with what the connection says. -/
def ExecutionEnds {κ : Type} (binds : List Value) (prepared : PreparedStatement κ)
    (calls : List CursorCall) (result : Except Error Nat) : Prop :=
  calls = [] ∧ result = prepared.execute binds

/-- Checks that a row has a column. -/
def Insertion.checkColumns (insertion : Insertion) (row : NewRow) : Except Error Unit :=
  if row.columns = [] then
    .error (.validation ("insert into " ++ insertion.table ++ ": record has no columns"))
  else .ok ()

/-- A connection answers a query for all rows of a statement with a cursor. -/
def Connection.Opens {κ : Type} (connection : Connection κ) (statement : Statement)
    (cursor : κ) : Prop :=
  ∃ prepared, connection.prepare statement.sql = .ok prepared ∧
    prepared.allRows statement.binds = .ok cursor

variable {κ : Type}

/-- Destinations that fail to flatten are rejected with that failure. -/
theorem Selection.checkRecords_of_error {destinations : List Destination} {error : Error}
    (selection : Selection) (failed : Destination.flatten destinations = .error error) :
    selection.checkRecords destinations = .error error := by
  simp [checkRecords, Destination.width, failed, Except.map, Bind.bind, Except.bind]

/-- Destinations that pass the check can take a row. -/
theorem Selection.areFlat_of_checkRecords {selection : Selection} {destinations : List Destination}
    (checked : selection.checkRecords destinations = .ok ()) :
    Destination.areFlat destinations = true := by
  cases flattened : Destination.flatten destinations with
  | error error => simp [selection.checkRecords_of_error flattened] at checked
  | ok cells => exact Destination.areFlat_of_flatten flattened

/-- A selection of the first row is conducted as a call should be. -/
theorem Selection.first_conducts (selection : Selection) (connection : Connection κ)
    (destinations : List Destination) :
    Conducts connection (selection.checkRecords destinations) selection.toStatement
      (.firstRow selection.toStatement.binds)
      (FirstRowEnds selection.toStatement.binds destinations)
      (selection.first connection destinations).requests
      (selection.first connection destinations).result := by
  cases checked : selection.checkRecords destinations with
  | error error => simpa [first, checked, Run.requests] using .rejected rfl
  | ok _ =>
    cases asked : connection.prepare selection.toStatement.sql with
    | error error =>
      simpa [first, checked, asked, Run.requests, preparation] using .unprepared rfl asked
    | ok prepared =>
      -- The check has found that the destinations can take a row.
      have flattened := Destination.flatten_of_areFlat (areFlat_of_checkRecords checked)
      have ends : FirstRowEnds selection.toStatement.binds destinations prepared []
          (Destination.receive destinations (prepared.firstRow selection.toStatement.binds)).1 := by
        refine ⟨rfl, fun error failed => ?_, fun values found => by rw [found]⟩
        rw [failed, Destination.receive, flattened]
      simpa [first, checked, asked, Run.requests, preparation] using .carriedOut rfl asked ends

/-- An insertion is conducted as a call should be. -/
theorem Insertion.execute_conducts (insertion : Insertion) (connection : Connection κ)
    (row : NewRow) :
    Conducts connection (insertion.checkColumns row) (insertion.toStatement row)
      (.execute (insertion.toStatement row).binds)
      (ExecutionEnds (insertion.toStatement row).binds)
      (insertion.execute connection row).requests
      (insertion.execute connection row).result := by
  -- A row without columns is turned away before anything is asked.
  by_cases empty : row.columns = []
  · simpa [execute, checkColumns, empty, Run.requests] using .rejected rfl
  · have checked : insertion.checkColumns row = .ok () := by simp [checkColumns, empty]
    cases asked : connection.prepare (insertion.toStatement row).sql with
    | error error =>
      simpa [execute, empty, checked, asked, Run.requests, preparation] using .unprepared rfl asked
    | ok prepared =>
      have ends : ExecutionEnds (insertion.toStatement row).binds prepared []
          (prepared.execute (insertion.toStatement row).binds) := ⟨rfl, rfl⟩
      simpa [execute, empty, checked, asked, Run.requests, preparation] using
        .carriedOut rfl asked ends

/-- The destinations that a selection of all rows accepts are sequences whose elements pass the
check. -/
theorem Selection.sequencesFor_eq_ok_iff {selection : Selection} {destinations : List Destination}
    {sequences : List RowSequence} :
    selection.sequencesFor destinations = .ok sequences ↔
      RowSequence.ofDestinations destinations = .ok sequences ∧
        selection.checkSequences sequences = .ok () := by
  -- The two steps succeed one after the other, and the first gives the result.
  rw [sequencesFor_eq]
  cases RowSequence.ofDestinations destinations with
  | error error => simp [Except.bind]
  | ok found =>
    cases checked : selection.checkSequences found with
    | error error =>
      simp only [Except.bind, Except.map, checked, Except.ok.injEq, reduceCtorEq, false_iff,
        not_and]
      rintro rfl passed
      rw [checked] at passed
      contradiction
    | ok _ =>
      simp only [Except.bind, Except.map, checked, Except.ok.injEq]
      exact ⟨fun same => ⟨same, same ▸ checked⟩, And.left⟩

/-- What a selection of all rows asks and what it leaves, once a cursor is returned: what is called
on the cursor is asked behind the run. -/
theorem Selection.all_of_cursor [Cursor κ] {selection : Selection} {connection : Connection κ}
    {destinations : List Destination} {sequences : List RowSequence}
    {prepared : PreparedStatement κ} {cursor : κ}
    (accepted : selection.sequencesFor destinations = .ok sequences)
    (asked : connection.prepare selection.toStatement.sql = .ok prepared)
    (answered : prepared.allRows selection.toStatement.binds = .ok cursor) :
    (selection.all connection destinations).requests =
        .prepare selection.toStatement.sql :: .allRows selection.toStatement.binds ::
          (takeAndClose cursor sequences).calls.map .cursor ∧
      (selection.all connection destinations).result =
        ((takeAndClose cursor sequences).result.map fun _ => ()) ∧
      (selection.all connection destinations).destinations =
        (takeAndClose cursor sequences).sequences.map RowSequence.toDestination := by
  -- The number of rows is reported only in the end, and a report is no request.
  cases taken : (takeAndClose cursor sequences).result with
  | error error =>
    simp [all, accepted, asked, answered, taken, Run.requests, preparation, Except.map]
  | ok count =>
    simp [all, accepted, asked, answered, taken, Run.requests, preparation, Except.map]

/-- A selection of all rows is conducted as a call should be. -/
theorem Selection.all_conducts [Cursor κ] (selection : Selection) (connection : Connection κ)
    (destinations : List Destination) :
    Conducts connection (selection.sequencesFor destinations) selection.toStatement
      (.allRows selection.toStatement.binds) (AllRowsEnd selection.toStatement.binds destinations)
      (selection.all connection destinations).requests
      (selection.all connection destinations).result := by
  cases checked : selection.sequencesFor destinations with
  | error error => simpa [all, checked, Run.requests] using .rejected rfl
  | ok sequences =>
    cases asked : connection.prepare selection.toStatement.sql with
    | error error =>
      simpa [all, checked, asked, Run.requests, preparation] using .unprepared rfl asked
    | ok prepared =>
      cases answered : prepared.allRows selection.toStatement.binds with
      | error error =>
        have ends : AllRowsEnd selection.toStatement.binds destinations prepared []
            (.error error) := .unanswered answered
        simpa [all, checked, asked, answered, Run.requests, preparation] using
          .carriedOut rfl asked ends
      | ok cursor =>
        -- From here on there is a cursor, which is walked over.
        obtain ⟨requests, result, _⟩ := all_of_cursor checked asked answered
        have walk := (takeAndClose_walks cursor sequences).1
        rw [requests, result]
        exact .carriedOut rfl asked (.walked answered (sequencesFor_eq_ok_iff.mp checked).1 walk)

/-- A selection of all rows that is answered with a cursor makes the calls of a walk on it. -/
theorem Selection.all_walks [Cursor κ] {selection : Selection} {connection : Connection κ}
    {destinations : List Destination} {sequences : List RowSequence} {cursor : κ}
    (accepted : selection.sequencesFor destinations = .ok sequences)
    (opens : connection.Opens selection.toStatement cursor) :
    Walks (RowSequence.freshElements sequences) cursor
      (selection.all connection destinations).cursorCalls
      (selection.all connection destinations).result := by
  obtain ⟨prepared, asked, answered⟩ := opens
  obtain ⟨requests, result, _⟩ := all_of_cursor accepted asked answered
  -- The first two requests are not made of the cursor.
  have calls : (selection.all connection destinations).cursorCalls =
      (takeAndClose cursor sequences).calls := by
    simp [Run.cursorCalls, requests]
  rw [calls, result]
  exact (takeAndClose_walks cursor sequences).1

/-- A selection of all rows that is not answered with a cursor fails and makes no calls on one. -/
theorem Selection.all_unopened [Cursor κ] {selection : Selection} {connection : Connection κ}
    {destinations : List Destination}
    (unopened : ∀ sequences cursor, selection.sequencesFor destinations = .ok sequences →
      ¬ connection.Opens selection.toStatement cursor) :
    (selection.all connection destinations).cursorCalls = [] ∧
      ∃ error, (selection.all connection destinations).result = .error error := by
  -- Every other way to conduct the call ends with an error before there is a cursor.
  cases checked : selection.sequencesFor destinations with
  | error error => simp [all, checked, Run.cursorCalls, Run.requests]
  | ok sequences =>
    cases asked : connection.prepare selection.toStatement.sql with
    | error error => simp [all, checked, asked, Run.cursorCalls, Run.requests, preparation]
    | ok prepared =>
      cases answered : prepared.allRows selection.toStatement.binds with
      | error error =>
        simp [all, checked, asked, answered, Run.cursorCalls, Run.requests, preparation]
      | ok cursor => exact absurd ⟨prepared, asked, answered⟩ (unopened sequences cursor checked)

/-- What is asked of a connection. Whatever the connection answers, a selection of the first row, a
selection of all rows and an insertion are each rejected before they ask for anything, or prepare
their statement once and, if that succeeds, run it once with its bound values; errors of the
connection are returned as they are. A selection of all rows closes the cursor that it is answered
with once, and without one it calls nothing. It succeeds exactly if every row is taken up and the
cursor has no error of its own behind them. -/
theorem calls_are_conducted [Cursor κ] (connection : Connection κ) (selection : Selection)
    (destinations : List Destination) (insertion : Insertion) (row : NewRow) :
    let first := selection.first connection destinations
    let all := selection.all connection destinations
    let insert := insertion.execute connection row
    let selected := selection.toStatement
    let inserted := insertion.toStatement row
    Conducts connection (selection.checkRecords destinations) selected (.firstRow selected.binds)
      (FirstRowEnds selected.binds destinations) first.requests first.result ∧
    Conducts connection (selection.sequencesFor destinations) selected (.allRows selected.binds)
      (AllRowsEnd selected.binds destinations) all.requests all.result ∧
    Conducts connection (insertion.checkColumns row) inserted (.execute inserted.binds)
      (ExecutionEnds inserted.binds) insert.requests insert.result ∧
    (∀ sequences cursor, selection.sequencesFor destinations = .ok sequences →
      connection.Opens selected cursor →
      all.cursorCalls.count .close = 1 ∧
      (all.result = .ok () ↔
        (∀ row ∈ Cursor.rowsToCome cursor,
          Destination.Accepts (RowSequence.freshElements sequences) row) ∧
        ∃ shorter, all.cursorCalls = shorter ++ [.takeError, .close] ∧
          (Cursor.takeError (Cursor.afterAll cursor shorter)).1 = .ok ())) ∧
    ((∀ sequences cursor, selection.sequencesFor destinations = .ok sequences →
        ¬ connection.Opens selected cursor) →
      all.cursorCalls = [] ∧ ∃ error, all.result = .error error) := by
  intro first all insert selected inserted
  refine ⟨selection.first_conducts connection destinations,
    selection.all_conducts connection destinations,
    insertion.execute_conducts connection row, ?_, Selection.all_unopened⟩
  intro sequences cursor accepted opens
  -- Only the calls on a cursor are left, and they are those of a walk.
  have walk := Selection.all_walks accepted opens
  exact ⟨walk.count_close, walk.ok_iff⟩

end RowQuery
