import RowQuery.Proofs.Execution.Answers

/-!
What is reported about a call. A call that is rejected before it asks for anything reports nothing.
Every other one reports its statement before that is prepared, and only a selection of all rows that
succeeds says more: how many rows it has appended to every destination.
-/

namespace RowQuery

/-- The weight of a report. -/
def LogEvent.level : LogEvent → LogLevel
  | .statement level _ _ _ _ => level
  | .rowsAppended level _ _ => level

/-- The call that a report is about. -/
def LogEvent.operation : LogEvent → Operation
  | .statement _ operation _ _ _ => operation
  | .rowsAppended _ operation _ => operation

/-- The course of a call. It is rejected by a check and leaves no trace. Or it is carried out: it
reports its statement, prepares the text and asks for more, and closing reports come behind all that
it asks. -/
inductive Course {β : Type} (options : ExecutionOptions) (operation : Operation)
    (statement : Statement) (check : Except Error β) (closing : List LogEvent) :
    List Action → Prop where
  | rejected {error : Error} :
    check = .error error → Course options operation statement check closing []
  | carriedOut {checked : β} (requests : List Request) :
    check = .ok checked →
    Course options operation statement check closing
      (.report (.statement options.level operation statement.binds.length
          (shownSql options statement.sql)
          (if options.showsBinds then some statement.binds else none)) ::
        .ask (.prepare statement.sql) :: (requests.map .ask ++ closing.map .report))

/-- Every report in the course of a call has the configured weight and is about that call, if the
closing reports do and are. -/
theorem Course.of_mem_events {α β : Type} {options : ExecutionOptions} {operation : Operation}
    {statement : Statement} {check : Except Error β} {closing : List LogEvent} {run : Run α}
    (course : Course options operation statement check closing run.actions)
    (closed : ∀ event ∈ closing, event.level = options.level ∧ event.operation = operation) :
    ∀ event ∈ run.events, event.level = options.level ∧ event.operation = operation := by
  intro event reported
  unfold Run.events at reported
  generalize run.actions = actions at course reported
  cases course with
  | rejected failed => simp at reported
  | carriedOut requests passed =>
    -- Requests are no reports, so a report is the first one or a closing one.
    simp only [List.filterMap_cons, List.filterMap_append, List.filterMap_map, Function.comp_def,
      List.filterMap_none, List.filterMap_some, List.nil_append, List.mem_cons] at reported
    rcases reported with rfl | late
    · exact ⟨rfl, rfl⟩
    · exact closed event late

/-- A destination that has grown by so many elements: it is a sequence before and after, and the new
elements stand behind the old ones. -/
inductive Destination.GrowsBy (count : Nat) : Destination → Destination → Prop where
  | sequence {element : Destination} {rows new : List Destination} :
    new.length = count → GrowsBy count (.sequence element rows) (.sequence element (rows ++ new))

/-- Sequences that have grown by rows have each gained one element for every batch. -/
theorem GrownBy.forall₂_growsBy {before after : List RowSequence}
    {rows : List (Except Error (List Value))} {batches : List (List Destination)}
    (growth : GrownBy before rows after batches) :
    List.Forall₂ (Destination.GrowsBy batches.length) (before.map RowSequence.toDestination)
      (after.map RowSequence.toDestination) := by
  obtain ⟨new, columns, _⟩ := growth.exists_elements
  rw [columns]
  apply List.forall₂_iff_get.mpr
  refine ⟨by simp, fun place inside _ => ?_⟩
  -- At every place stands the sequence with its own element of each batch behind its rows.
  simp only [List.get_eq_getElem, List.getElem_map, List.getElem_ofFn, RowSequence.toDestination]
  exact .sequence (List.length_ofFn)

/-- The report about appended rows, behind a selection of all rows that succeeds. -/
def rowsReport (options : ExecutionOptions) (count : Nat) : Except Error Unit → List LogEvent
  | .ok _ => [.rowsAppended options.level .selectAll count]
  | .error _ => []

variable {κ : Type} (connection : Connection κ)

/-- A selection of the first row takes its course without a closing report. -/
theorem Selection.first_course (selection : Selection) (destinations : List Destination) :
    Course selection.options .selectFirst selection.toStatement
      (selection.checkRecords destinations) []
      (selection.first connection destinations).actions := by
  cases checked : selection.checkRecords destinations with
  | error error => simpa [first, checked] using .rejected rfl
  | ok _ =>
    cases asked : connection.prepare selection.toStatement.sql with
    | error error =>
      simpa [first, checked, asked, preparation, LogEvent.ofStatement] using .carriedOut [] rfl
    | ok prepared =>
      -- The row is asked for once, and nothing is reported behind that.
      simpa [first, checked, asked, preparation, LogEvent.ofStatement] using
        .carriedOut [.firstRow selection.toStatement.binds] rfl

/-- An insertion takes its course without a closing report. -/
theorem Insertion.execute_course (insertion : Insertion) (row : NewRow) :
    Course insertion.options .insertValues (insertion.toStatement row)
      (insertion.checkColumns row) [] (insertion.execute connection row).actions := by
  -- A row without columns is turned away before anything is told.
  by_cases empty : row.columns = []
  · simpa [execute, checkColumns, empty] using .rejected rfl
  · have checked : insertion.checkColumns row = .ok () := by simp [checkColumns, empty]
    cases asked : connection.prepare (insertion.toStatement row).sql with
    | error error =>
      simpa [execute, checked, empty, asked, preparation, LogEvent.ofStatement] using
        .carriedOut [] rfl
    | ok prepared =>
      simpa [execute, checked, empty, asked, preparation, LogEvent.ofStatement] using
        .carriedOut [.execute (insertion.toStatement row).binds] rfl

/-- A count that is left when a cursor is closed counts the rows that it had. -/
theorem Selection.takeAndClose_count [Cursor κ] {cursor : κ} {sequences : List RowSequence}
    {count : Nat} (success : (takeAndClose cursor sequences).result = .ok count) :
    count = (Cursor.rowsToCome cursor).length := by
  obtain ⟨batches, _, counted⟩ := takeRows_grows cursor sequences
  -- Closing the cursor leaves the count alone, and the walk counts a batch for every row.
  obtain ⟨same, complete⟩ := counted count (takeRows_result_of_takeAndClose success)
  exact same.trans complete

/-- A selection of all rows takes its course, and if it succeeds a closing report counts the rows of
the connection. -/
theorem Selection.all_course [Cursor κ] (selection : Selection)
    (destinations : List Destination) :
    Course selection.options .selectAll selection.toStatement
      (selection.sequencesFor destinations)
      (rowsReport selection.options (connection.rowsOf selection.toStatement).length
        (selection.all connection destinations).result)
      (selection.all connection destinations).actions := by
  -- The cases are the points at which a call may end: the check, the text, the query, the rows.
  cases checked : selection.sequencesFor destinations with
  | error error => simpa [all, checked] using .rejected rfl
  | ok sequences =>
    cases asked : connection.prepare selection.toStatement.sql with
    | error error =>
      simpa [all, checked, asked, preparation, rowsReport, LogEvent.ofStatement] using
        .carriedOut [] rfl
    | ok prepared =>
      cases answered : prepared.allRows selection.toStatement.binds with
      | error error =>
        simpa [all, checked, asked, answered, preparation, rowsReport, LogEvent.ofStatement] using
          .carriedOut [.allRows selection.toStatement.binds] rfl
      | ok cursor =>
        -- From here on only the walk over the cursor can fail, and only its success is reported.
        have course (closing : List LogEvent) : Course selection.options .selectAll
            selection.toStatement (.ok sequences) closing _ :=
          .carriedOut (.allRows selection.toStatement.binds ::
            (takeAndClose cursor sequences).calls.map .cursor) rfl
        cases taken : (takeAndClose cursor sequences).result with
        | error error =>
          simpa [all, checked, asked, answered, taken, preparation, rowsReport,
            LogEvent.ofStatement, Function.comp_def] using course []
        | ok count =>
          have rows : (connection.rowsOf selection.toStatement).length = count := by
            rw [takeAndClose_count taken, Connection.rowsOf, asked]
            simp only [answered]
          simpa [all, checked, asked, answered, taken, rows, preparation, rowsReport,
            LogEvent.ofStatement, Function.comp_def] using
              course [.rowsAppended selection.options.level .selectAll count]

/-- A selection of all rows that succeeds has appended every row of the connection to each of its
destinations. -/
theorem Selection.all_growsBy [Cursor κ] {selection : Selection} {destinations : List Destination}
    (success : (selection.all connection destinations).result = .ok ()) :
    List.Forall₂ (Destination.GrowsBy (connection.rowsOf selection.toStatement).length)
      destinations (selection.all connection destinations).destinations := by
  cases accepted : selection.sequencesFor destinations with
  | error error => simp [all, accepted] at success
  | ok sequences =>
    obtain ⟨recognised, checked⟩ := sequencesFor_eq_ok_iff.mp accepted
    obtain rfl := RowSequence.eq_map_toDestination recognised
    -- Behind the check the destinations grow by batches, as many as there are rows.
    obtain ⟨after, batches, growth, grown, complete⟩ := all_grows connection checked
    rw [grown, ← complete success]
    exact growth.forall₂_growsBy

/-- Reports tell what happens. Whatever the connection answers, each call either is rejected by its
check and reports nothing, or reports its statement once, before that is prepared: with the name of
the call, the number of bound values and the text, cut off where the options say so. Behind all that
is asked, a selection of all rows reports appended rows, exactly if it succeeds, and then every
destination has grown by as many elements as are reported. Nothing else is reported, and all reports
have the configured weight. -/
theorem reports_tell_what_happens [Cursor κ] (selection : Selection)
    (destinations : List Destination) (insertion : Insertion) (row : NewRow) :
    let first := selection.first connection destinations
    let all := selection.all connection destinations
    let insert := insertion.execute connection row
    let count := (connection.rowsOf selection.toStatement).length
    (Course selection.options .selectFirst selection.toStatement
        (selection.checkRecords destinations) [] first.actions ∧
      ∀ event ∈ first.events,
        event.level = selection.options.level ∧ event.operation.name = "select.first") ∧
    (Course selection.options .selectAll selection.toStatement
        (selection.sequencesFor destinations) (rowsReport selection.options count all.result)
        all.actions ∧
      (all.result = .ok () →
        List.Forall₂ (Destination.GrowsBy count) destinations all.destinations) ∧
      ∀ event ∈ all.events,
        event.level = selection.options.level ∧ event.operation.name = "select.all") ∧
    (Course insertion.options .insertValues (insertion.toStatement row)
        (insertion.checkColumns row) [] insert.actions ∧
      ∀ event ∈ insert.events,
        event.level = insertion.options.level ∧ event.operation.name = "insert.values") := by
  intro first all insert count
  have ofFirst := selection.first_course connection destinations
  have ofAll := selection.all_course connection destinations
  have ofInsert := insertion.execute_course connection row
  refine ⟨⟨ofFirst, ?_⟩, ⟨ofAll, selection.all_growsBy connection, ?_⟩, ⟨ofInsert, ?_⟩⟩
  · intro event reported
    obtain ⟨level, operation⟩ := ofFirst.of_mem_events (by simp) event reported
    exact ⟨level, by rw [operation]; rfl⟩
  · intro event reported
    -- The closing report, if there is one, is made in the same way.
    have closed : ∀ event ∈ rowsReport selection.options count all.result,
        event.level = selection.options.level ∧ event.operation = .selectAll := by
      intro event closing
      cases ended : all.result with
      | error error => simp [ended, rowsReport] at closing
      | ok _ =>
        simp only [ended, rowsReport, List.mem_singleton] at closing
        rw [closing]
        exact ⟨rfl, rfl⟩
    obtain ⟨level, operation⟩ := ofAll.of_mem_events closed event reported
    exact ⟨level, by rw [operation]; rfl⟩
  · intro event reported
    obtain ⟨level, operation⟩ := ofInsert.of_mem_events (by simp) event reported
    exact ⟨level, by rw [operation]; rfl⟩

end RowQuery
