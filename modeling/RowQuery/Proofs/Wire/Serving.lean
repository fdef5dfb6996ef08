import RowQuery.Wire.Server
import RowQuery.Proofs.Execution.Serving

/-!
A server as one more connection that serves rows: those that arrive, each read as a whole before any
of it is laid over destinations, and then the end or the server's error.
-/

namespace RowQuery

/-- A row that could not be had is not laid over destinations, and leaves them as they are. -/
theorem Destination.receive_error {destinations : List Destination}
    (flat : areFlat destinations = true) (error : Error) :
    receive destinations (.error error) = (.error error, destinations) := by
  simp [receive, flatten_of_areFlat flat]

namespace Wire

/-- The cell that a row has for a place. A row that is too short counts as filled up with
nothing. -/
def cellAt (cells : List WireValue) (place : Nat) : WireValue :=
  cells[place]?.getD none

/-- Every cell of a row, counted from a position on, can be read, and these are their values. -/
structure ReadsAs (position : Nat) (columns : List ResultColumn) (cells : List WireValue)
    (values : List Value) : Prop where
  length_eq : values.length = columns.length
  each : ∀ (place : Nat) (column : ResultColumn) (value : Value),
    columns[place]? = some column → values[place]? = some value →
    column.value (position + place) (cellAt cells place) = .ok value

/-- The first cell of a row, counted from a position on, that cannot be read: its place, its column
and the failure. -/
structure FirstUnread (position : Nat) (columns : List ResultColumn) (cells : List WireValue)
    (place : Nat) (column : ResultColumn) (error : Error) : Prop where
  here : columns[place]? = some column
  unread : column.value (position + place) (cellAt cells place) = .error error
  before : ∀ earlier < place, ∀ other, columns[earlier]? = some other →
    ∃ value, other.value (position + earlier) (cellAt cells earlier) = .ok value

/-- The failure to read a cell is laid to the name of its column. -/
theorem ResultColumn.exists_reason {column : ResultColumn} {position : Nat} {cell : WireValue}
    {error : Error} (unread : column.value position cell = .error error) :
    ∃ reason, error = .decode column.name reason := by
  unfold ResultColumn.value at unread
  -- Either nothing of the type can be read, or these bytes cannot.
  split at unread
  · exact ⟨_, (Except.error.inj unread).symm⟩
  · split at unread
    · contradiction
    · split at unread
      · contradiction
      · exact ⟨_, (Except.error.inj unread).symm⟩

/-- The places behind the first cell of a row are counted one less in the rest of it. -/
theorem cellAt_tail (cells : List WireValue) (place : Nat) :
    cellAt cells.tail place = cellAt cells (place + 1) := by
  cases cells <;> rfl

section Cons

variable {position : Nat} {column : ResultColumn} {columns : List ResultColumn}
  {cells : List WireValue} {value : Value}

/-- A cell that is read in front of a row that is read. -/
theorem ReadsAs.cons {values : List Value}
    (first : column.value position (cellAt cells 0) = .ok value)
    (rest : ReadsAs (position + 1) columns cells.tail values) :
    ReadsAs position (column :: columns) cells (value :: values) where
  length_eq := by simp [rest.length_eq]
  each place other read here found := by
    cases place with
    | zero =>
      simp only [List.getElem?_cons_zero, Option.some.injEq] at here found
      subst here found
      exact first
    | succ place =>
      -- In the row behind, places and cells are both counted from one further on.
      have same := rest.each place other read here found
      rw [cellAt_tail, Nat.add_assoc, Nat.add_comm 1] at same
      exact same

/-- A cell that is read in front of the first one that cannot be. -/
theorem FirstUnread.cons {place : Nat} {other : ResultColumn} {error : Error}
    (first : column.value position (cellAt cells 0) = .ok value)
    (rest : FirstUnread (position + 1) columns cells.tail place other error) :
    FirstUnread position (column :: columns) cells (place + 1) other error where
  here := rest.here
  unread := by
    -- In the row behind, places and cells are both counted from one further on.
    have same := rest.unread
    rw [cellAt_tail, Nat.add_assoc, Nat.add_comm 1] at same
    exact same
  before earlier within another found := by
    cases earlier with
    | zero =>
      simp only [List.getElem?_cons_zero, Option.some.injEq] at found
      subst found
      exact ⟨value, first⟩
    | succ earlier =>
      obtain ⟨later, same⟩ := rest.before earlier (by omega) another found
      rw [cellAt_tail, Nat.add_assoc, Nat.add_comm 1] at same
      exact ⟨later, same⟩

end Cons

/-- A row either is read as the values of its cells, or fails with the first of its cells that
cannot be read. -/
theorem readRowFrom_cases (position : Nat) (columns : List ResultColumn) (cells : List WireValue) :
    (∃ values, readRowFrom position columns cells = .ok values ∧
        ReadsAs position columns cells values) ∨
      ∃ place column reason,
        readRowFrom position columns cells = .error (.decode column.name reason) ∧
        FirstUnread position columns cells place column (.decode column.name reason) := by
  -- The induction is on the columns, with the position of the first of them counted up.
  induction columns generalizing position cells with
  | nil => exact .inl ⟨[], rfl, rfl, by simp⟩
  | cons column columns ih =>
    have front : cells.head?.getD none = cellAt cells 0 := by cases cells <;> rfl
    cases first : column.value position (cellAt cells 0) with
    | error error =>
      -- No cell stands in front of this one.
      obtain ⟨reason, rfl⟩ := column.exists_reason first
      refine .inr ⟨0, column, reason, by simp [readRowFrom, front, first], rfl, first, ?_⟩
      intro earlier within
      omega
    | ok value =>
      -- The rest of the row decides.
      rcases ih (position + 1) cells.tail with
        ⟨values, read, all⟩ | ⟨place, other, reason, failed, unread⟩
      · exact .inl ⟨value :: values, by simp [readRowFrom, front, first, read, Except.map],
          all.cons first⟩
      · exact .inr ⟨place + 1, other, reason,
          by simp [readRowFrom, front, first, failed, Except.map], unread.cons first⟩

/-- How a stream ends, as callers are told. -/
def RowStream.lastWord (stream : RowStream) : Except Error Unit :=
  match stream.ending with
  | none => .ok ()
  | some error => .error error.toError

/-- The rows of a stream as they are read, and how it ends. -/
def RowStream.delivery (stream : RowStream) (columns : List ResultColumn) : Delivery :=
  ⟨stream.rows.map (readRow columns), stream.lastWord⟩

/-- The values of rows up to the first that cannot be read, whose failure then takes the place of
their ending. -/
def readable (columns : List ResultColumn) (ending : Except Error Unit) :
    List (List WireValue) → List (List Value) × Except Error Unit
  | [] => ([], ending)
  | cells :: behind =>
    match readRow columns cells with
    | .error error => ([], .error error)
    | .ok values =>
      (values :: (readable columns ending behind).1, (readable columns ending behind).2)

/-- A connection in memory with the rows of a stream that come before the first that cannot be read,
and with the failure of that row or else the end of the stream. -/
def RowStream.inMemory (stream : RowStream) (columns : List ResultColumn) : Memory :=
  let (rows, ending) := readable columns stream.lastWord stream.rows
  .serving rows ending

/-- Rows as they are read are taken up as their values in memory are, unless the first of them
cannot be read and would not even have been laid over the elements. -/
theorem takeUp_readable (columns : List ResultColumn) (ending : Except Error Unit)
    (rows : List (List WireValue)) {sequences : List RowSequence}
    (laid : Destination.areFlat (RowSequence.freshElements sequences) = true ∨
      ∀ cells behind, rows = cells :: behind → ∃ values, readRow columns cells = .ok values) :
    (⟨rows.map (readRow columns), ending⟩ : Delivery).takeUp sequences =
      (⟨(readable columns ending rows).1.map .ok, (readable columns ending rows).2⟩ :
        Delivery).takeUp sequences := by
  induction rows generalizing sequences with
  | nil => rfl
  | cons cells behind ih =>
    rw [List.map_cons, Delivery.takeUp_cons]
    cases read : readRow columns cells with
    | error error =>
      -- The failure stands for the row on one side, and for the ending on the other.
      rcases laid with flat | first
      · simp only [Destination.receive_error flat, readable, read]
        rfl
      · obtain ⟨values, found⟩ := first cells behind rfl
        simp [read] at found
    | ok values =>
      simp only [readable, read, List.map_cons, Delivery.takeUp_cons]
      by_cases accepted : Destination.Accepts (RowSequence.freshElements sequences) (.ok values)
      · -- Nothing is in the way of the rows behind, since this one could be laid over the elements.
        obtain ⟨filled, received, holds⟩ := Destination.receive_of_accepts accepted
        have flat : Destination.areFlat
            (RowSequence.freshElements (RowSequence.pushEach sequences filled)) = true := by
          rw [RowSequence.freshElements_pushEach (GrownBy.length_of_holdRow holds)]
          exact accepted.1
        simp only [received, ih (.inl flat)]
      · -- A row that is not accepted ends both sides alike.
        obtain ⟨error, failed⟩ := Destination.receive_of_not_accepts accepted
        cases received : Destination.receive (RowSequence.freshElements sequences) (.ok values) with
        | mk outcome filled =>
          rw [received] at failed
          subst failed
          rfl

/-- A cursor over a stream delivers its rows as they are read, and then its end. -/
theorem Rows.delivery_eq (rows : Rows) {stream : RowStream} (pending : rows.pending = some stream)
    (clear : rows.error = none) : Cursor.delivery rows = stream.delivery rows.columns := by
  obtain ⟨arriving, ending⟩ := stream
  -- The induction is on the rows that still arrive; the cursor's own error stays clear meanwhile.
  induction arriving generalizing rows with
  | nil =>
    cases ending with
    | none =>
      -- The end of the stream closes the cursor without an error.
      have next : Cursor.next rows = (false, rows.close) := by
        simp [Cursor.next, Rows.next, pending]
      rw [Cursor.delivery_of_ended (by simp [next]), next]
      simp [Cursor.takeError, Rows.takeError, Rows.close, clear, RowStream.delivery,
        RowStream.lastWord]
    | some error =>
      -- The error closes the cursor, which keeps it to be told.
      have next : Cursor.next rows =
          (false, { rows with error := some error.toError }.close) := by
        simp [Cursor.next, Rows.next, pending]
      rw [Cursor.delivery_of_ended (by simp [next]), next]
      simp [Cursor.takeError, Rows.takeError, Rows.close, RowStream.delivery, RowStream.lastWord]
  | cons cells behind ih =>
    have next : Cursor.next rows =
        (true, { rows with pending := some ⟨behind, ending⟩, current := some cells }) := by
      simp [Cursor.next, Rows.next, pending]
    have rest := ih { rows with pending := some ⟨behind, ending⟩, current := some cells } clear rfl
    rw [Cursor.delivery_of_moved (by simp [next]), next, rest]
    rfl

namespace Server

/-- A server takes a statement: it prepares the text, the bound values are encoded and accepted, and
a stream of rows starts. -/
structure Takes (server : Server) (statement : Statement) (stream : RowStream) : Prop where
  prepared : server.prepare statement.sql = .ok server.description
  started : server.start statement.binds = .ok stream

variable {server : Server} {statement : Statement} {stream : RowStream}

/-- A server serves the rows of a stream as they are read. -/
theorem connection_serves (takes : server.Takes statement stream) :
    server.connection.Serves statement (stream.delivery server.description.columns) := by
  constructor
  · -- A fresh cursor has the whole stream in front of it.
    have delivered := Rows.delivery_eq
      { columns := server.description.columns, pending := some stream } rfl rfl
    simp [Connection.deliveryOf, connection, allRows, takes.prepared, takes.started, Except.map,
      Except.bind, delivered]
  · have answered : server.connection.firstRowOf statement = server.firstRow statement.binds := by
      simp [Connection.firstRowOf, connection, takes.prepared, Except.map, Except.bind]
    rw [answered, firstRow, takes.started]
    -- The stream starts with a row, with its error, or with its end.
    obtain ⟨rows, ending⟩ := stream
    cases rows with
    | nil =>
      cases ending with
      | none => exact .absent rfl rfl
      | some error => exact .failed rfl rfl
    | cons cells behind => exact .row rfl

/-- A selection of the first row sees no more of a stream than its first row. -/
theorem outcome_first_of_rows {selection : Selection}
    (takes : server.Takes selection.toStatement stream) {cells : List WireValue}
    {behind : List (List WireValue)} (rows : stream.rows = cells :: behind)
    (destinations : List Destination) :
    (selection.first server.connection destinations).outcome =
      selection.firstOutcome (readRow server.description.columns cells) destinations := by
  -- The first row that is delivered is the first of the stream, as it is read.
  have first : (stream.delivery server.description.columns).rows =
      readRow server.description.columns cells ::
        behind.map (readRow server.description.columns) := by
    simp [RowStream.delivery, rows]
  rw [selection.outcome_first, (connection_serves takes).firstRow.eq_of_rows first]

/-- Where good rows come first and then nothing more or a row that cannot be read, a selection of
all rows keeps the good ones, and fails as the stream or that row does. -/
theorem all_of_good_rows {selection : Selection} (takes : server.Takes selection.toStatement stream)
    {sequences : List RowSequence} (checked : selection.checkSequences sequences = .ok ())
    {good behind : List (List WireValue)} (rows : stream.rows = good ++ behind)
    (accepted : ∀ cells ∈ good, Destination.Accepts (RowSequence.freshElements sequences)
      (readRow server.description.columns cells))
    {error : Error}
    (failure : behind = [] ∧ stream.lastWord = .error error ∨
      Destination.areFlat (RowSequence.freshElements sequences) = true ∧
        ∃ cells rest, behind = cells :: rest ∧
          readRow server.description.columns cells = .error error) :
    ∃ after batches,
      GrownBy sequences (good.map (readRow server.description.columns)) after batches ∧
      batches.length = good.length ∧
      let fetched := selection.all server.connection (sequences.map RowSequence.toDestination)
      fetched.result = .error error ∧
        fetched.destinations = after.map RowSequence.toDestination := by
  have serves := connection_serves takes
  rw [RowStream.delivery, rows, List.map_append] at serves
  have acceptedRows : ∀ row ∈ good.map (readRow server.description.columns),
      Destination.Accepts (RowSequence.freshElements sequences) row := by
    simpa using accepted
  obtain ⟨after, batches, growth, counted, same, result, filled⟩ :=
    Selection.all_of_accepted_rows checked serves acceptedRows
  refine ⟨after, batches, growth, by simpa using counted, ?_⟩
  intro fetched
  -- What is left behind the good rows adds no element, and it fails.
  have rest : (⟨behind.map (readRow server.description.columns), stream.lastWord⟩ : Delivery).takeUp
      after = (.error error, after) := by
    rcases failure with ⟨rfl, ended⟩ | ⟨flat, cells, others, rfl, unread⟩
    · simp [Delivery.takeUp, RowSequence.takeUp, ended, Except.map]
    · rw [← same] at flat
      simp only [Delivery.takeUp, List.map_cons, RowSequence.takeUp, unread,
        Destination.receive_error flat]
  rw [rest] at result filled
  exact ⟨result, filled⟩

end Server

/-- The connection in memory for a stream serves the rows that can be read, and how they end. -/
theorem RowStream.inMemory_serves (stream : RowStream) (columns : List ResultColumn)
    (statement : Statement) :
    (stream.inMemory columns).connection.Serves statement
      ⟨(readable columns stream.lastWord stream.rows).1.map .ok,
        (readable columns stream.lastWord stream.rows).2⟩ :=
  Memory.serves_serving _ _ statement

/-- What begins the rows of a stream, the first of them or its failure, begins those in memory. -/
theorem RowStream.begins_readable {stream : RowStream} {columns : List ResultColumn}
    {answer : Except Error (List Value)} (begins : (stream.delivery columns).Begins answer) :
    (⟨(readable columns stream.lastWord stream.rows).1.map .ok,
      (readable columns stream.lastWord stream.rows).2⟩ : Delivery).Begins answer := by
  obtain ⟨rows, ending⟩ := stream
  -- Without rows the ending begins both, and otherwise the first row does.
  cases rows with
  | nil => exact begins
  | cons cells behind =>
    rw [begins.eq_of_rows rfl]
    simp only [readable]
    cases read : readRow columns cells with
    | error error => exact .failed rfl rfl
    | ok values => exact .row rfl

/-- A selection of the first row from a server has the outcome that it has from the connection in
memory for its stream, but for words. -/
theorem outcome_first_in_memory {server : Server} {selection : Selection} {stream : RowStream}
    (takes : server.Takes selection.toStatement stream) (destinations : List Destination) :
    let fetched := selection.first server.connection destinations
    let kept := selection.first (stream.inMemory server.description.columns).connection destinations
    SameButWords fetched.result kept.result ∧ fetched.destinations = kept.destinations := by
  -- Both connections begin with the same row, or with endings that differ in words.
  have begins := RowStream.begins_readable (Server.connection_serves takes).firstRow
  have kept := stream.inMemory_serves server.description.columns selection.toStatement
  obtain ⟨result, _, filled⟩ :=
    Selection.outcome_first_of_answers (begins.sameButWords kept.firstRow) destinations
  exact ⟨result, filled⟩

/-- A selection of all rows from a server has the outcome that it has from the connection in memory
for its stream, unless the first row cannot be read and would not even have been laid over the
elements. -/
theorem outcome_all_in_memory {server : Server} {selection : Selection} {stream : RowStream}
    (takes : server.Takes selection.toStatement stream) {sequences : List RowSequence}
    (laid : Destination.areFlat (RowSequence.freshElements sequences) = true ∨
      ∀ cells behind, stream.rows = cells :: behind →
        ∃ values, readRow server.description.columns cells = .ok values) :
    (selection.all server.connection (sequences.map RowSequence.toDestination)).outcome =
      (selection.all (stream.inMemory server.description.columns).connection
        (sequences.map RowSequence.toDestination)).outcome := by
  have serves := Server.connection_serves takes
  have kept := stream.inMemory_serves server.description.columns selection.toStatement
  rw [selection.outcome_all, selection.outcome_all, serves.allRows, kept.allRows]
  -- The deliveries are taken up alike by the sequences, if the selection accepts these.
  have passed := Selection.sequencesFor_toDestination selection sequences
  simp only [Selection.allOutcome, passed]
  cases selection.checkSequences sequences with
  | error error => rfl
  | ok _ =>
    simp only [Except.map]
    rw [RowStream.delivery, takeUp_readable _ _ _ laid]

/-- A selection from a server has the outcome that it has from any connection that serves the same
rows, as they are read, with the same end; a selection of the first row may differ in the words that
say that there is none. A connection in memory that has the rows in front of the first one that
cannot be read, and then the failure of that row or else the end of the stream, is as good. The
failure of a row names the column of its first cell that cannot be read, and it changes nothing.
Nothing behind its first row is seen by a selection of the first, and a failure of the stream or of
a row leaves a selection of all rows with exactly the good rows in front of it. -/
theorem selections_read_as_served {server : Server} {selection : Selection} {stream : RowStream}
    (takes : server.Takes selection.toStatement stream) :
    let columns := server.description.columns
    (∀ {κ : Type} [Cursor κ] (plain : Connection κ),
      plain.Serves selection.toStatement (stream.delivery columns) → ∀ destinations,
        (selection.all server.connection destinations).outcome =
            (selection.all plain destinations).outcome ∧
          SameButWords (selection.first server.connection destinations).result
            (selection.first plain destinations).result ∧
          (selection.first server.connection destinations).destinations =
            (selection.first plain destinations).destinations) ∧
      (∀ destinations,
        let fetched := selection.first server.connection destinations
        let kept := selection.first (stream.inMemory columns).connection destinations
        SameButWords fetched.result kept.result ∧ fetched.destinations = kept.destinations) ∧
      (∀ sequences : List RowSequence,
        (Destination.areFlat (RowSequence.freshElements sequences) = true ∨
          ∀ cells behind, stream.rows = cells :: behind →
            ∃ values, readRow columns cells = .ok values) →
        (selection.all server.connection (sequences.map RowSequence.toDestination)).outcome =
          (selection.all (stream.inMemory columns).connection
            (sequences.map RowSequence.toDestination)).outcome) ∧
      (∀ cells, (∃ values, readRow columns cells = .ok values ∧ ReadsAs 0 columns cells values) ∨
        ∃ place column reason,
          FirstUnread 0 columns cells place column (.decode column.name reason) ∧
          ∀ destinations, Destination.areFlat destinations = true →
            Destination.receive destinations (readRow columns cells) =
              (.error (.decode column.name reason), destinations)) ∧
      (∀ (other : Server) (later : RowStream) (cells : List WireValue)
          (behind behind' : List (List WireValue)),
        other.Takes selection.toStatement later → other.description.columns = columns →
        stream.rows = cells :: behind → later.rows = cells :: behind' → ∀ destinations,
          (selection.first server.connection destinations).outcome =
            (selection.first other.connection destinations).outcome) ∧
      ∀ (sequences : List RowSequence) (good behind : List (List WireValue)) (error : Error),
        selection.checkSequences sequences = .ok () → stream.rows = good ++ behind →
        (∀ cells ∈ good, Destination.Accepts (RowSequence.freshElements sequences)
          (readRow columns cells)) →
        (behind = [] ∧ stream.lastWord = .error error ∨
          Destination.areFlat (RowSequence.freshElements sequences) = true ∧
            ∃ cells rest, behind = cells :: rest ∧ readRow columns cells = .error error) →
        ∃ after batches,
          GrownBy sequences (good.map (readRow columns)) after batches ∧
          batches.length = good.length ∧
          let fetched := selection.all server.connection (sequences.map RowSequence.toDestination)
          fetched.result = .error error ∧
            fetched.destinations = after.map RowSequence.toDestination := by
  intro columns
  have serves := Server.connection_serves takes
  refine ⟨?_, ?_, ?_, ?_, ?_, ?_⟩
  · intro κ _ plain served destinations
    have alike := serves.firstRow.sameButWords served.firstRow
    obtain ⟨result, _, filled⟩ := Selection.outcome_first_of_answers alike destinations
    exact ⟨Selection.outcome_all_of_serves serves served destinations, result, filled⟩
  · exact outcome_first_in_memory takes
  · intro sequences laid
    exact outcome_all_in_memory takes laid
  · intro cells
    -- A row that cannot be read is an error before it reaches any destination.
    rcases readRowFrom_cases 0 columns cells with
      read | ⟨place, column, reason, failed, unread⟩
    · exact .inl read
    · refine .inr ⟨place, column, reason, unread, ?_⟩
      intro destinations flat
      rw [readRow, failed]
      exact Destination.receive_error flat _
  · intro other later cells behind behind' takesOther sameColumns rows rowsLater destinations
    rw [Server.outcome_first_of_rows takes rows, Server.outcome_first_of_rows takesOther rowsLater,
      sameColumns]
  · intro sequences good behind error checked rows accepted failure
    exact Server.all_of_good_rows takes checked rows accepted failure

/-- The second of three rows that arrive has a level of one byte, behind a key that is missing: a
selection of all rows fails with the name of the column of levels, and keeps the first row. -/
theorem selections_read_as_served_up_to_broken_level :
    let server : Server := {
      description := ⟨[], [⟨"key", .bytea⟩, ⟨"level", .int4⟩]⟩
      rows := [[some [0, 7], none], [none, some [1]], [some [0, 9], none]] }
    let selection : Selection := ⟨[⟨"users", "key"⟩, ⟨"users", "level"⟩], [], [], {}⟩
    let sequences : List RowSequence := [⟨.ofType .bytes, []⟩, ⟨.ofType (.optional .int32), []⟩]
    let fetched := selection.all server.connection (sequences.map RowSequence.toDestination)
    fetched.result = .error (.decode "level" "error deserializing column 1") ∧
      ∃ after batches, GrownBy sequences [.ok [.bytes [0, 7], .null]] after batches ∧
        batches.length = 1 ∧ fetched.destinations = after.map RowSequence.toDestination := by
  intro server selection sequences fetched
  -- The text can be sent, the elements are flat and wide enough, and the rows are read one by one.
  have sendable : Server.isSendable selection.toStatement.sql = true := by decide +kernel
  have takes : server.Takes selection.toStatement server.stream :=
    ⟨by simp only [Server.prepare, sendable, if_true, server], rfl⟩
  have flat : Destination.areFlat (RowSequence.freshElements sequences) = true := by decide
  have checked : selection.checkSequences sequences = .ok () := by
    rw [Selection.checkSequences_eq, Selection.checkRecords, Destination.width,
      Destination.flatten_of_areFlat flat]
    rfl
  have first : readRow server.description.columns [some [0, 7], none] =
      .ok [.bytes [0, 7], .null] := by rfl
  have second : readRow server.description.columns [none, some [1]] =
      .error (.decode "level" "error deserializing column 1") := by rfl
  have accepted : ∀ cells ∈ [[some [0, 7], none]],
      Destination.Accepts (RowSequence.freshElements sequences)
        (readRow server.description.columns cells) := by
    intro cells member
    rw [List.mem_singleton.mp member, first]
    exact ⟨flat, _, rfl, .cons ⟨_, rfl⟩ (.cons ⟨_, rfl⟩ .nil)⟩
  obtain ⟨after, batches, growth, counted, result, filled⟩ :=
    (selections_read_as_served takes).2.2.2.2.2 sequences [[some [0, 7], none]] _ _ checked rfl
      accepted (.inr ⟨flat, _, _, rfl, second⟩)
  rw [List.map_singleton, first] at growth
  exact ⟨result, after, batches, growth, counted, filled⟩

end Wire

end RowQuery
