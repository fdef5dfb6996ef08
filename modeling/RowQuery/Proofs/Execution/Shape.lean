import RowQuery.Connection.Memory
import RowQuery.Proofs.Destination.Addresses
import RowQuery.Proofs.Execution.Requests

/-!
Errors that concern the shape of destinations. They leave every destination as it was, and nothing
has been asked of the connection when they are returned, with one exception: without the check of
widths, a sequence inside the elements of a sequence is met only when the first row is there.
-/

namespace RowQuery

/-- A cursor leaves it to its callers to judge shapes: whatever is called on it before, none of its
own errors concerns one. -/
structure Cursor.IgnoresShape {κ : Type} [Cursor κ] (cursor : κ) : Prop where
  row : ∀ calls error, Cursor.row (afterAll cursor calls) = .error error →
    error.concernsShape = false
  takeError : ∀ calls error, (Cursor.takeError (afterAll cursor calls)).1 = .error error →
    error.concernsShape = false

/-- A connection leaves it to its callers to judge shapes: none of its own errors concerns one. -/
structure Connection.IgnoresShape {κ : Type} [Cursor κ] (connection : Connection κ) : Prop where
  prepare : ∀ sql error, connection.prepare sql = .error error → error.concernsShape = false
  firstRow : ∀ sql prepared binds error, connection.prepare sql = .ok prepared →
    prepared.firstRow binds = .error error → error.concernsShape = false
  allRows : ∀ sql prepared binds error, connection.prepare sql = .ok prepared →
    prepared.allRows binds = .error error → error.concernsShape = false
  execute : ∀ sql prepared binds error, connection.prepare sql = .ok prepared →
    prepared.execute binds = .error error → error.concernsShape = false
  cursor : ∀ statement cursor, connection.Opens statement cursor → Cursor.IgnoresShape cursor

/-- A connection in memory that is not told to fail has no errors that concern shapes. -/
theorem Memory.connection_ignoresShape (rows : List (List Value)) :
    ({ rows } : Memory).connection.IgnoresShape := by
  -- Its cursors have no error of their own, whatever is called on them.
  have sound : ∀ (cursor : Rows) (calls : List CursorCall), cursor.failure = none →
      cursor.error = none → (Cursor.afterAll cursor calls).error = none := by
    intro cursor calls
    induction calls generalizing cursor with
    | nil => exact fun _ none => none
    | cons call calls ih =>
      intro unfailing clean
      have kept : (Cursor.after cursor call).failure = none ∧
          (Cursor.after cursor call).error = none := by
        cases call with
        | next =>
          simp only [Cursor.after, Cursor.next, Rows.next, Rows.failureNow?, unfailing,
            Option.bind_none]
          split
          · exact ⟨unfailing, clean⟩
          · split <;> exact ⟨rfl, clean⟩
        | scan => exact ⟨unfailing, clean⟩
        | close => exact ⟨unfailing, clean⟩
        | takeError => simp [Cursor.after, Cursor.takeError, Rows.takeError, clean, unfailing]
      exact ih _ kept.1 kept.2
  refine ⟨by simp [connection], ?_, ?_, ?_, ?_⟩
  · rintro sql prepared binds error ⟨⟩ failed
    cases rows with
    | nil =>
      simp only [firstRow, Except.error.injEq] at failed
      rw [← failed]
      rfl
    | cons row rows => simp [firstRow] at failed
  · rintro sql prepared binds error ⟨⟩ failed
    simp [allRows] at failed
  · rintro sql prepared binds error ⟨⟩ failed
    simp [execute] at failed
  · rintro statement cursor ⟨prepared, ⟨⟩, answered⟩
    simp only [allRows, Except.ok.injEq] at answered
    subst answered
    refine ⟨fun calls error failed => ?_, fun calls error failed => ?_⟩
    · -- Only the lack of a current row is an error.
      simp only [Cursor.row, Rows.row] at failed
      split at failed
      · contradiction
      · rw [← Except.error.inj failed]
        rfl
    · have clean := sound { pending := rows } calls rfl rfl
      simp [Cursor.takeError, Rows.takeError, clean] at failed

/-- An assignment that fails has met a value of another kind. -/
theorem Cell.concernsShape_assignFrom {cells : List Cell} {values : List Value} {position : Nat}
    {error : Error} (failed : (Cell.assignFrom position cells values).1 = .error error) :
    error.concernsShape = false := by
  -- The induction follows the walk over cells and values, which stops at the first mismatch.
  induction cells generalizing position values with
  | nil => simp [assignFrom] at failed
  | cons cell cells ih =>
    cases values with
    | nil => simp [assignFrom] at failed
    | cons value values =>
      cases assigned : cell.assign value with
      | error mismatch =>
        simp only [assignFrom, assigned, Except.error.injEq] at failed
        rw [← failed]
        rfl
      | ok stored =>
        simp only [assignFrom, assigned] at failed
        exact ih failed

namespace Destination

/-- Destinations that can take a row fail to do so because of the row. -/
theorem concernsShape_receive {destinations : List Destination} {row : Except Error (List Value)}
    {error : Error} (flat : areFlat destinations = true)
    (honest : ∀ other, row = .error other → other.concernsShape = false)
    (failed : (receive destinations row).1 = .error error) : error.concernsShape = false := by
  simp only [receive, flatten_of_areFlat flat] at failed
  cases row with
  | error other =>
    simp only [Except.error.injEq] at failed
    exact failed ▸ honest other rfl
  | ok values =>
    -- The row is too long or too short, or one of its values is of another kind.
    simp only [Cell.assignAll] at failed
    split at failed
    · exact Cell.concernsShape_assignFrom failed
    · simp only [Except.error.injEq] at failed
      rw [← failed]
      rfl

/-- Destinations that can take no row fail to flatten, and the error is about their shape. -/
theorem flatten_of_not_areFlat {destinations : List Destination}
    (nested : areFlat destinations = false) :
    ∃ error, flatten destinations = .error error ∧ error.concernsShape = true := by
  cases flattened : flatten destinations with
  | ok cells => simp [areFlat_of_flatten flattened] at nested
  | error error =>
    -- The error names the first sequence, which is an error of shape.
    obtain ⟨_, found, _, rfl⟩ := exists_isFirstSequence flattened
    exact ⟨_, rfl, rfl⟩

end Destination

/-- A row that comes is the current row after some calls. -/
theorem Cursor.exists_of_mem_rowsToCome {κ : Type} [Cursor κ] {cursor : κ}
    {row : Except Error (List Value)} (comes : row ∈ rowsToCome cursor) :
    ∃ calls, Cursor.row (afterAll cursor calls) = row := by
  -- The induction is on the rows to come, each of which is found where the cursor stands then.
  induction rows : rowsToCome cursor generalizing cursor with
  | nil => simp [rows] at comes
  | cons first rest ih =>
    obtain ⟨_, current, later⟩ := rowsToCome_eq_cons_iff.mp rows
    rw [rows] at comes
    rcases List.mem_cons.mp comes with rfl | behind
    · exact ⟨[.next], current⟩
    · obtain ⟨calls, found⟩ := ih (later ▸ behind) later
      exact ⟨.next :: calls, found⟩

variable {κ : Type} [Cursor κ]

/-- A walk that fails because of a shape fails at its first row: the elements can take no row at
all, and nothing has been done but to move to that one. -/
theorem Walks.of_shape_error {fresh : List Destination} {cursor : κ} {calls : List CursorCall}
    {error : Error} (honest : Cursor.IgnoresShape cursor)
    (walk : Walks fresh cursor calls (.error error)) (shape : error.concernsShape = true) :
    Destination.areFlat fresh = false ∧ (Cursor.next cursor).1 = true ∧
      calls = [.next, .close] := by
  generalize outcome : (Except.error error : Except Error Unit) = result at walk
  cases walk with
  | toEnd _ _ _ asked =>
    -- The error would be the cursor's own.
    have blameless := honest.takeError _ error (asked.trans outcome.symm)
    rw [blameless] at shape
    contradiction
  | @toFailure before behind row failure rows accepted failed =>
    obtain rfl : error = failure := Except.error.inj outcome
    cases flat : Destination.areFlat fresh with
    | true =>
      -- The error would be the row's own, or it would be about one of its values.
      have comes : row ∈ Cursor.rowsToCome cursor := by rw [rows]; simp
      obtain ⟨calls, current⟩ := Cursor.exists_of_mem_rowsToCome comes
      have blameless := Destination.concernsShape_receive flat
        (fun own ofRow => honest.row calls own (current.trans ofRow)) failed
      rw [blameless] at shape
      contradiction
    | false =>
      -- No row before it can have been accepted, so there is none.
      cases before with
      | cons earlier _ =>
        have wasFlat := (accepted earlier List.mem_cons_self).1
        rw [flat] at wasFlat
        contradiction
      | nil =>
        obtain ⟨moved, _⟩ := Cursor.rowsToCome_eq_cons_iff.mp rows
        exact ⟨rfl, moved, rfl⟩

/-- A selection of the first row that fails because of a shape has asked for nothing and leaves its
destinations alone. -/
theorem Selection.first_of_shape_error {connection : Connection κ}
    (honest : connection.IgnoresShape) {selection : Selection} {destinations : List Destination}
    {error : Error} (failed : (selection.first connection destinations).result = .error error)
    (shape : error.concernsShape = true) :
    (selection.first connection destinations).requests = [] ∧
      (selection.first connection destinations).destinations = destinations := by
  cases checked : selection.checkRecords destinations with
  | error _ => simp [first, checked, Run.requests]
  | ok _ =>
    -- Behind the check every error is the connection's or about the row.
    exfalso
    have blameless : error.concernsShape = false := by
      have conduct := selection.first_conducts connection destinations
      rw [failed] at conduct
      generalize (selection.first connection destinations).requests = requests at conduct
      cases conduct with
      | rejected rejected => rw [checked] at rejected; contradiction
      | unprepared _ asked => exact honest.prepare _ _ asked
      | @carriedOut _ prepared calls _ _ asked ends =>
        obtain ⟨_, ofConnection, ofRow⟩ := ends
        cases answered : prepared.firstRow selection.toStatement.binds with
        | error own =>
          rw [Except.error.inj (ofConnection own answered)]
          exact honest.firstRow _ _ _ _ asked answered
        | ok values =>
          exact Destination.concernsShape_receive (areFlat_of_checkRecords checked) (by simp)
            (ofRow values answered).symm
    rw [blameless] at shape
    contradiction

/-- An insertion never fails because of a shape. -/
theorem Insertion.concernsShape_execute {connection : Connection κ}
    (honest : connection.IgnoresShape) {insertion : Insertion} {row : NewRow} {error : Error}
    (failed : (insertion.execute connection row).result = .error error) :
    error.concernsShape = false := by
  have conduct := insertion.execute_conducts connection row
  rw [failed] at conduct
  generalize (insertion.execute connection row).requests = requests at conduct
  cases conduct with
  | rejected rejected =>
    -- The only rejection is about the columns of the row.
    simp only [checkColumns] at rejected
    split at rejected
    · rw [← Except.error.inj rejected]
      rfl
    · contradiction
  | unprepared _ asked => exact honest.prepare _ _ asked
  | carriedOut _ asked ends => exact honest.execute _ _ _ _ asked ends.2.symm

/-- The check of widths finds elements that can take no row. -/
theorem Selection.areFlat_of_checkSequences {selection : Selection} {sequences : List RowSequence}
    (checked : selection.checkSequences sequences = .ok ())
    (on : selection.options.checkWidth = true) :
    Destination.areFlat (RowSequence.freshElements sequences) = true := by
  rw [checkSequences_eq, if_pos on] at checked
  exact areFlat_of_checkRecords checked

/-- A selection of all rows that meets elements which can take no row only when the first row is
there fails because of a shape. It has asked for the rows by then, and its destinations are left
alone. -/
theorem Selection.all_of_nested_sequence {connection : Connection κ} {selection : Selection}
    {destinations : List Destination} {sequences : List RowSequence} {cursor : κ}
    (accepted : selection.sequencesFor destinations = .ok sequences)
    (opens : connection.Opens selection.toStatement cursor)
    (moved : (Cursor.next cursor).1 = true)
    (nested : Destination.areFlat (RowSequence.freshElements sequences) = false) :
    (∃ error, (selection.all connection destinations).result = .error error ∧
      error.concernsShape = true) ∧
      (selection.all connection destinations).destinations = destinations ∧
      (selection.all connection destinations).requests =
        [.prepare selection.toStatement.sql, .allRows selection.toStatement.binds,
          .cursor .next, .cursor .close] := by
  obtain ⟨prepared, asked, answered⟩ := opens
  obtain ⟨requests, result, kept⟩ := all_of_cursor accepted asked answered
  -- The elements are taken apart before the row is looked at.
  obtain ⟨error, flattened, shape⟩ := Destination.flatten_of_not_areFlat nested
  have refused : (Destination.receive (RowSequence.freshElements sequences)
      (Cursor.row (Cursor.next cursor).2)).1 = .error error := by
    rw [Destination.receive, flattened]
  have walk := takeRows_of_refused moved refused
  have closed : takeAndClose cursor sequences =
      ⟨.error error, sequences, Cursor.close (Cursor.next cursor).2, [.next, .close]⟩ := by
    simp [takeAndClose, walk, nested]
  rw [closed] at requests result kept
  have same := RowSequence.eq_map_toDestination (sequencesFor_eq_ok_iff.mp accepted).1
  exact ⟨⟨error, result, shape⟩, kept.trans same.symm, requests⟩

/-- A selection of all rows that fails because of a shape leaves its destinations alone. It has
asked for nothing, or it has met elements that can take no row when the first row was there. -/
theorem Selection.all_of_shape_error {connection : Connection κ}
    (honest : connection.IgnoresShape) {selection : Selection} {destinations : List Destination}
    {error : Error} (failed : (selection.all connection destinations).result = .error error)
    (shape : error.concernsShape = true) :
    (selection.all connection destinations).destinations = destinations ∧
      ((selection.all connection destinations).requests = [] ∨
        ∃ sequences cursor, selection.sequencesFor destinations = .ok sequences ∧
          connection.Opens selection.toStatement cursor ∧ (Cursor.next cursor).1 = true ∧
          Destination.areFlat (RowSequence.freshElements sequences) = false ∧
          (selection.all connection destinations).requests =
            [.prepare selection.toStatement.sql, .allRows selection.toStatement.binds,
              .cursor .next, .cursor .close]) := by
  cases accepted : selection.sequencesFor destinations with
  | error _ => simp [all, accepted, Run.requests]
  | ok sequences =>
    by_cases opened : ∃ cursor, connection.Opens selection.toStatement cursor
    · -- The error is that of a walk, and it is met at the first row.
      obtain ⟨cursor, opens⟩ := opened
      have walk := all_walks accepted opens
      rw [failed] at walk
      obtain ⟨nested, moved, _⟩ := walk.of_shape_error (honest.cursor _ _ opens) shape
      obtain ⟨_, kept, requests⟩ := all_of_nested_sequence accepted opens moved nested
      exact ⟨kept, .inr ⟨sequences, cursor, rfl, opens, moved, nested, requests⟩⟩
    · -- Without a cursor the error is the connection's.
      exfalso
      have blameless : error.concernsShape = false := by
        have conduct := selection.all_conducts connection destinations
        rw [failed] at conduct
        generalize (selection.all connection destinations).requests = requests at conduct
        cases conduct with
        | rejected rejected => rw [accepted] at rejected; contradiction
        | unprepared _ asked => exact honest.prepare _ _ asked
        | carriedOut _ asked ends =>
          cases ends with
          | unanswered answered => exact honest.allRows _ _ _ _ asked answered
          | walked answered _ _ => exact absurd ⟨_, _, asked, answered⟩ opened
      rw [blameless] at shape
      contradiction

/-- Errors that concern a shape. With a connection that has none of its own, every such error leaves
the destinations as they were. A selection of the first row has then asked for nothing, and an
insertion has no such error at all. A selection of all rows has one behind its first request exactly
if the check of widths is off, some element of a sequence has a sequence in it, and the query is
answered with a first row. -/
theorem requests_of_shape_error {connection : Connection κ} (honest : connection.IgnoresShape)
    (selection : Selection) (destinations : List Destination) (insertion : Insertion)
    (row : NewRow) :
    let first := selection.first connection destinations
    let all := selection.all connection destinations
    let insert := insertion.execute connection row
    (∀ error, first.result = .error error → error.concernsShape = true →
      first.requests = [] ∧ first.destinations = destinations) ∧
    (∀ error, insert.result = .error error → error.concernsShape = false) ∧
    (∀ error, all.result = .error error → error.concernsShape = true →
      all.destinations = destinations) ∧
    ((∃ error, all.result = .error error ∧ error.concernsShape = true ∧ all.requests ≠ []) ↔
      selection.options.checkWidth = false ∧
      ∃ sequences cursor, RowSequence.ofDestinations destinations = .ok sequences ∧
        Destination.areFlat (RowSequence.freshElements sequences) = false ∧
        connection.Opens selection.toStatement cursor ∧ (Cursor.next cursor).1 = true) := by
  intro first all insert
  refine ⟨fun _ => Selection.first_of_shape_error honest,
    fun _ => Insertion.concernsShape_execute honest,
    fun _ failed shape => (Selection.all_of_shape_error honest failed shape).1, ?_⟩
  constructor
  · rintro ⟨error, failed, shape, asked⟩
    rcases (Selection.all_of_shape_error honest failed shape).2 with silent | late
    · exact absurd silent asked
    · obtain ⟨sequences, cursor, accepted, opens, moved, nested, _⟩ := late
      obtain ⟨recognised, checked⟩ := Selection.sequencesFor_eq_ok_iff.mp accepted
      refine ⟨?_, sequences, cursor, recognised, nested, opens, moved⟩
      -- The check would have found the elements.
      by_contra on
      have flat := Selection.areFlat_of_checkSequences checked (Bool.not_eq_false _ ▸ on)
      rw [nested] at flat
      contradiction
  · rintro ⟨off, sequences, cursor, recognised, nested, opens, moved⟩
    have accepted : selection.sequencesFor destinations = .ok sequences :=
      Selection.sequencesFor_eq_ok_iff.mpr ⟨recognised, by simp [Selection.checkSequences_eq, off]⟩
    obtain ⟨⟨error, failed, shape⟩, _, requests⟩ :=
      Selection.all_of_nested_sequence accepted opens moved nested
    exact ⟨error, failed, shape, by simp [all, requests]⟩

/-- With a sequence inside the records of a list, a row that comes and the check of widths switched
off, a selection of all rows is refused for a shape after its statement is prepared and run. -/
theorem all_asks_despite_nested_sequence :
    let connection := ({ rows := [[.int 1]] } : Memory).connection
    let selection : Selection := ⟨[⟨"users", "id"⟩], [], [], { checkWidth := false }⟩
    let destinations : List Destination :=
      [.sequence (.record "User" [.sequence (.scalar (.fresh .int64)) []]) []]
    let all := selection.all connection destinations
    connection.IgnoresShape ∧
      (∃ error, all.result = .error error ∧ error.concernsShape = true) ∧
      all.requests = [.prepare "SELECT id FROM users", .allRows [], .cursor .next,
        .cursor .close] := by
  intro connection selection destinations all
  -- With the check switched off, every list of sequences is taken.
  have accepted : selection.sequencesFor destinations =
      .ok [⟨.record "User" [.sequence (.scalar (.fresh .int64)) []], []⟩] := rfl
  have opens : connection.Opens selection.toStatement { pending := [[.int 1]] } :=
    ⟨_, rfl, rfl⟩
  have sql : selection.toStatement.sql = "SELECT id FROM users" := by decide
  obtain ⟨failed, _, requests⟩ := Selection.all_of_nested_sequence accepted opens rfl rfl
  rw [sql] at requests
  exact ⟨Memory.connection_ignoresShape _, failed, requests⟩

/-- The same selection of the first row is refused before it asks for anything, and of all rows it
is refused behind that. -/
theorem requests_of_shape_error_in_memory :
    let connection := ({ rows := [[.int 1]] } : Memory).connection
    let selection : Selection := ⟨[⟨"users", "id"⟩], [], [], { checkWidth := false }⟩
    let destinations : List Destination :=
      [.sequence (.record "User" [.sequence (.scalar (.fresh .int64)) []]) []]
    let first := selection.first connection destinations
    let all := selection.all connection destinations
    connection.IgnoresShape ∧
      (∃ error, first.result = .error error ∧ error.concernsShape = true ∧ first.requests = []) ∧
      ∃ error, all.result = .error error ∧ error.concernsShape = true ∧ all.requests ≠ [] := by
  intro connection selection destinations first all
  have honest : connection.IgnoresShape := Memory.connection_ignoresShape _
  obtain ⟨ofFirst, _, _, late⟩ := requests_of_shape_error honest selection destinations
    ⟨"users", {}⟩ ⟨[], []⟩
  -- The first row fails on the shape itself, and all rows by the late way.
  refine ⟨honest, ?_, ?_⟩
  · obtain ⟨error, flattened, shape⟩ :=
      Destination.flatten_of_not_areFlat (show Destination.areFlat destinations = false from rfl)
    have failed : first.result = .error error := by
      simp [first, Selection.first, selection.checkRecords_of_error flattened]
    exact ⟨error, failed, shape, (ofFirst error failed shape).1⟩
  · exact late.mpr ⟨rfl, _, { pending := [[.int 1]] }, rfl, rfl, ⟨_, rfl, rfl⟩, rfl⟩

end RowQuery
