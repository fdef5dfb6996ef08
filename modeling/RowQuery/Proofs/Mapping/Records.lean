import RowQuery.Mapping.Fields
import RowQuery.Proofs.Destination.Cells
import RowQuery.Proofs.Execution.Serving
import RowQuery.Proofs.Value.Conversion

/-!
Records that are written as rows and read back. The derived mappings agree field by field, and a row
of a record, laid over another record of the same types, makes it the same as the first. The row has
one NaN for those of single precision, so these count as the same.
-/

namespace RowQuery

/-- The lists of values with which something was executed, in order. -/
def Run.executed {α : Type} (run : Run α) : List (List Value) :=
  run.requests.filterMap fun
    | .execute binds => some binds
    | _ => none

/-- An insertion executes the values of its row once if the row has a column and the text is
prepared. -/
theorem Insertion.executed_execute {κ : Type} {insertion : Insertion} {connection : Connection κ}
    {row : NewRow} (inhabited : row.columns ≠ []) {prepared : PreparedStatement κ}
    (accepted : connection.prepare (insertion.toStatement row).sql = .ok prepared) :
    (insertion.execute connection row).executed = [row.values] := by
  have binds : (insertion.toStatement row).binds = row.values := rfl
  simp [execute, inhabited, accepted, Run.executed, Run.requests, preparation, binds]

namespace Mapping

/-- A record: what its fields hold, by their names. -/
structure Record (types : String → FieldType) where
  content : (field : String) → (types field).Content

namespace Record

variable {types : String → FieldType}

/-- The cell of a field. -/
def cell (record : Record types) (field : String) : Cell :=
  ⟨types field, record.content field⟩

/-- The row that a record is written as. -/
def row (record : Record types) (written : List WrittenField) : NewRow :=
  .ofCells (written.map fun field => (field.column, record.cell field.field))

/-- A record without nested ones as a destination. -/
def destination (record : Record types) (kind : String) (read : List ReadField) : Destination :=
  .record kind (read.map fun field => .scalar (record.cell field.field))

/-- Records whose fields that are written hold the same. -/
def Same (written : List WrittenField) (left right : Record types) : Prop :=
  ∀ field ∈ written, (types field.field).Same (left.content field.field) (right.content field.field)

/-- The record with the quiet NaN for every NaN of single precision. -/
def quieted (record : Record types) : Record types where
  content field := (types field).quieted (record.content field)

/-- The quiet NaN makes no difference to a record. -/
theorem same_quieted (written : List WrittenField) (record : Record types) :
    Same written record.quieted record :=
  fun field _ => (types field.field).same_quieted (record.content field.field)

end Record

/-- Fields that are written as a row are read as cells, in the same order. -/
theorem mapM_read_of_writtenFields {struct : StructOptions} {before : List String}
    {fields : List Field} {written : List WrittenField}
    (derived : writtenFields struct before fields = .ok written) :
    fields.mapM Field.read = .ok (written.map fun field => ⟨false, field.field⟩) := by
  -- The induction is on the fields; the columns taken so far grow with those that are written.
  induction fields generalizing before written with
  | nil =>
    simp only [writtenFields, Except.ok.injEq] at derived
    subst derived
    rfl
  | cons field rest ih =>
    cases parsed : FieldOptions.ofAttributes field.attributes with
    | error fault => simp [writtenFields, parsed] at derived
    | ok options =>
      -- A field that is nested, or whose column is taken, is not written.
      simp only [writtenFields, parsed] at derived
      split at derived
      · contradiction
      · rename_i single
        split at derived
        · contradiction
        · cases later : writtenFields struct (before ++ [field.column options struct]) rest with
          | error fault => simp [later, Except.map] at derived
          | ok others =>
            simp only [later, Except.map, Except.ok.injEq] at derived
            subst derived
            have read : field.read = .ok ⟨false, field.name⟩ := by
              simp [Field.read, parsed, single, Bind.bind, Except.bind, Pure.pure, Except.pure]
            rw [List.mapM_cons, read, ih later]
            rfl

/-- A record that is written as a row can be read, and none of its fields is nested. -/
theorem record_of_insertable {declaration : Declaration} {written : List WrittenField}
    (derived : declaration.insertable = .ok written) :
    declaration.record = .ok (written.map fun field => ⟨false, field.field⟩) := by
  -- Both derivations look at the same fields, and only the writing one at the struct attributes.
  unfold Declaration.insertable at derived
  cases struct : StructOptions.ofAttributes declaration.attributes with
  | error fault => simp [struct, Bind.bind, Except.bind] at derived
  | ok options =>
    cases body : declaration.body with
    | named fields =>
      simp only [struct, Declaration.fieldsFor, body, Bind.bind, Except.bind] at derived
      simp only [Declaration.record, Declaration.fieldsFor, body, Bind.bind, Except.bind]
      exact mapM_read_of_writtenFields derived
    | unnamed => simp [struct, Declaration.fieldsFor, body, Bind.bind, Except.bind] at derived
    | notAStruct => simp [struct, Declaration.fieldsFor, body, Bind.bind, Except.bind] at derived

end Mapping

namespace Destination

/-- Cells one by one are flat, and they are their own leaves. -/
theorem leavesOfAll_scalars (cells : List Cell) :
    areFlat (cells.map scalar) = true ∧ leavesOfAll (cells.map scalar) = cells := by
  induction cells with
  | nil => exact ⟨rfl, rfl⟩
  | cons cell rest ih => simp [areFlat, isFlat, leavesOfAll, leaves, ih]

/-- Cells one by one are replaced by as many others. -/
theorem refillEach_scalars {cells others : List Cell} (aligned : cells.length = others.length) :
    (refillEach (cells.map scalar) others).1 = others.map scalar := by
  -- Both lists are walked together, a cell for a cell.
  induction cells generalizing others with
  | nil =>
    cases others with
    | nil => rfl
    | cons other others => simp at aligned
  | cons cell cells ih =>
    cases others with
    | nil => simp at aligned
    | cons other others => simp [refillEach, refill, ih (by simpa using aligned)]

/-- A record of cells flattens to them. -/
theorem flatten_record_scalars (kind : String) (cells : List Cell) :
    flatten [.record kind (cells.map scalar)] = .ok cells := by
  obtain ⟨flat, leaves⟩ := leavesOfAll_scalars cells
  rw [flatten_eq_ok_iff]
  simp [areFlat, isFlat, leavesOfAll, Destination.leaves, flat, leaves]

/-- A record of cells is filled by as many others. -/
theorem withCells_record_scalars (kind : String) {cells others : List Cell}
    (aligned : cells.length = others.length) :
    withCells [.record kind (cells.map scalar)] others = [.record kind (others.map scalar)] := by
  simp [withCells, refillEach, refill, refillEach_scalars aligned]

end Destination

namespace Mapping.Record

variable {types : String → FieldType} {kind : String} {written : List WrittenField}
  {read : List ReadField}

/-- The record as a destination is a record of its cells. -/
theorem destination_eq (record : Record types) (kind : String) (read : List ReadField) :
    record.destination kind read =
      .record kind ((read.map fun field => record.cell field.field).map .scalar) := by
  simp [destination]

/-- The values of one record's fields, assigned to the cells of another, make them those of the
first. -/
theorem assignFrom_cells (record old : Record types) (position : Nat) {fields : List String}
    (faithful : ∀ field ∈ fields, (types field).isFaithful = true) :
    Cell.assignFrom position (fields.map old.cell)
        (fields.map fun field => (record.cell field).value) =
      (.ok (), fields.map record.quieted.cell) := by
  -- Each value is converted back to the content that it came from, and the next is one place on.
  induction fields generalizing position with
  | nil => rfl
  | cons field fields ih =>
    have converted := FieldType.ofValue_toValue_of_isFaithful (faithful field (by simp))
      (record.content field)
    have assigned : (old.cell field).assign (record.cell field).value =
        .ok (record.quieted.cell field) := by
      simp [Cell.assign, Cell.value, cell, quieted, converted, Except.map]
    have rest := ih (position + 1) fun other member =>
      faithful other (List.mem_cons_of_mem _ member)
    simp only [List.map_cons, Cell.assignFrom, assigned, rest]

/-- The row of a record, laid over another, makes it the first. -/
theorem receive_row (record old : Record types) (kind : String)
    (same : read.map ReadField.field = written.map WrittenField.field)
    (faithful : ∀ field ∈ written, (types field.field).isFaithful = true) :
    Destination.receive [old.destination kind read] (.ok (record.row written).values) =
      (.ok (), [record.quieted.destination kind read]) := by
  have values : (record.row written).values =
      (read.map ReadField.field).map fun field => (record.cell field).value := by
    simp [row, NewRow.ofCells, same, Function.comp_def]
  -- Cells and values are both taken by the names of the fields, in the order of the written ones.
  have cells : ∀ other : Record types, (read.map fun field => other.cell field.field) =
      (read.map ReadField.field).map other.cell := by
    simp [Function.comp_def]
  have faithfulEach : ∀ field ∈ read.map ReadField.field, (types field).isFaithful = true := by
    rw [same]
    simpa using faithful
  have assigned := record.assignFrom_cells old 0 faithfulEach
  rw [destination_eq, destination_eq, cells, cells]
  simp only [Destination.receive, Destination.flatten_record_scalars, values, Cell.assignAll,
    List.length_map, if_true, assigned]
  rw [Destination.withCells_record_scalars kind (by simp)]

/-- A selection accepts a record with as many fields as it has columns. -/
theorem checkRecords_destination {selection : Selection} (record : Record types) (kind : String)
    (aligned : read.length = selection.columns.length) :
    selection.checkRecords [record.destination kind read] = .ok () := by
  -- A record of cells is as wide as it has fields.
  rw [destination_eq]
  simp only [Selection.checkRecords, Destination.width, Destination.flatten_record_scalars,
    Except.map, Bind.bind, Except.bind, List.length_map, aligned]
  simp [Selection.checkWidth]

/-- Rows of records are taken up as these records, in order. -/
theorem takeUp_rows (records : List (Record types)) (old : Record types) (kind : String)
    (same : read.map ReadField.field = written.map WrittenField.field)
    (faithful : ∀ field ∈ written, (types field.field).isFaithful = true)
    (rows : List Destination) :
    RowSequence.takeUp (records.map fun record => .ok (record.row written).values)
        [⟨old.destination kind read, rows⟩] =
      (.ok records.length,
        [⟨old.destination kind read, rows ++ records.map fun record =>
          record.quieted.destination kind read⟩]) := by
  -- Every row is laid over the same fresh element, and what it makes of it is appended.
  induction records generalizing rows with
  | nil => simp [RowSequence.takeUp]
  | cons record records ih =>
    have first := record.receive_row old kind same faithful
    have rest := ih (rows ++ [record.quieted.destination kind read])
    simp only [List.map_cons, RowSequence.takeUp, RowSequence.freshElements, List.map_nil, first,
      RowSequence.pushEach, List.zipWith_cons_cons, List.zipWith_nil_right, RowSequence.push, rest]
    simp [Except.map]

section Selected

variable {κ : Type} [Cursor κ] {connection : Connection κ} {selection : Selection}
  {records : List (Record types)}

/-- A selection of all rows from a connection that serves the rows of records appends these
records. -/
theorem all_of_serves (old : Record types) (kind : String) (rows : List Destination)
    (aligned : read.length = selection.columns.length)
    (same : read.map ReadField.field = written.map WrittenField.field)
    (faithful : ∀ field ∈ written, (types field.field).isFaithful = true)
    (serves : connection.Serves selection.toStatement
      ⟨records.map fun record => .ok (record.row written).values, .ok ()⟩) :
    let fetched := selection.all connection [.sequence (old.destination kind read) rows]
    fetched.result = .ok () ∧
      fetched.destinations = [.sequence (old.destination kind read)
        (rows ++ records.map fun record => record.quieted.destination kind read)] := by
  intro fetched
  -- The elements are as wide as the selection, so the destination passes the check.
  have accepted : selection.sequencesFor [.sequence (old.destination kind read) rows] =
      .ok [⟨old.destination kind read, rows⟩] := by
    have checked : selection.checkSequences [⟨old.destination kind read, rows⟩] = .ok () := by
      simp [Selection.checkSequences_eq, RowSequence.freshElements,
        checkRecords_destination old kind aligned]
    have sequences := selection.sequencesFor_toDestination [⟨old.destination kind read, rows⟩]
    rw [checked] at sequences
    exact sequences
  -- What the call leaves is decided by what is served to it.
  have outcome := selection.outcome_all connection [.sequence (old.destination kind read) rows]
  rw [serves.allRows] at outcome
  simp only [Selection.allOutcome, accepted, Delivery.takeUp,
    takeUp_rows records old kind same faithful, Except.map] at outcome
  exact ⟨congrArg Outcome.result outcome, congrArg Outcome.destinations outcome⟩

/-- A selection of the first row from a connection that serves the rows of records makes another
record the first of them. -/
theorem first_of_serves {record : Record types} (old : Record types) (kind : String)
    (aligned : read.length = selection.columns.length)
    (same : read.map ReadField.field = written.map WrittenField.field)
    (faithful : ∀ field ∈ written, (types field.field).isFaithful = true)
    {rows : List (Except Error (List Value))} {ending : Except Error Unit}
    (serves : connection.Serves selection.toStatement
      ⟨.ok (record.row written).values :: rows, ending⟩) :
    let fetched := selection.first connection [old.destination kind read]
    fetched.result = .ok () ∧ fetched.destinations = [record.quieted.destination kind read] := by
  intro fetched
  -- The answer to a query for the first row is the first of the rows that are served.
  have answered : connection.firstRowOf selection.toStatement =
      .ok (record.row written).values := serves.firstRow.eq_of_rows rfl
  have outcome := selection.outcome_first connection [old.destination kind read]
  rw [answered] at outcome
  simp only [Selection.firstOutcome, checkRecords_destination old kind aligned,
    record.receive_row old kind same faithful] at outcome
  exact ⟨congrArg Outcome.result outcome, congrArg Outcome.destinations outcome⟩

end Selected

/-- The lists of values with which the insertions of records execute their statements, one record
after the other. -/
def executed {ι : Type} (recorder : Connection ι) (insertion : Insertion)
    (written : List WrittenField) (records : List (Record types)) : List (List Value) :=
  records.flatMap fun record => (insertion.execute recorder (record.row written)).executed

/-- Insertions of records execute the values of their rows, if the text is prepared. -/
theorem executed_eq_map {ι : Type} {recorder : Connection ι} {insertion : Insertion}
    (records : List (Record types)) (inhabited : written ≠ [])
    (accepted : ∀ record ∈ records, ∃ prepared,
      recorder.prepare (insertion.toStatement (record.row written)).sql = .ok prepared) :
    executed recorder insertion written records =
      records.map fun record => (record.row written).values := by
  unfold executed
  induction records with
  | nil => rfl
  | cons record records ih =>
    obtain ⟨prepared, first⟩ := accepted record (by simp)
    -- A record with a field has a column to write, so it is not rejected.
    have columns : (record.row written).columns ≠ [] := by
      simpa [row, NewRow.ofCells] using inhabited
    rw [List.flatMap_cons, List.map_cons, Insertion.executed_execute columns first,
      ih fun other member => accepted other (List.mem_cons_of_mem _ member)]
    rfl

end Mapping.Record

namespace Mapping

/-- What is inserted can be read back. Let a declaration without nested fields have fields of types
whose contents all come back from their values. Then the fields that are read are those that are
written, and the row of a record, laid over any other record of the declaration, makes it the same
as the first, whatever it was before. And if the rows that insertions executed are served to a
selection of the same columns, then a record for each inserted one, the same as it, is appended to a
sequence in the order of the insertions, and the first row makes any record the same as the first of
them. -/
theorem inserted_records_return {declaration : Declaration} {written : List WrittenField}
    (derived : declaration.insertable = .ok written) (inhabited : written ≠ [])
    {types : String → FieldType}
    (faithful : ∀ field ∈ written, (types field.field).isFaithful = true) (kind : String) :
    ∃ read, declaration.record = .ok read ∧ (∀ field ∈ read, field.isNested = false) ∧
      read.map ReadField.field = written.map WrittenField.field ∧
      (∀ record : Record types, ∃ returned, Record.Same written returned record ∧
        ∀ old : Record types,
          Destination.receive [old.destination kind read] (.ok (record.row written).values) =
            (.ok (), [returned.destination kind read])) ∧
      ∀ {ι κ : Type} [Cursor κ] (recorder : Connection ι) (connection : Connection κ)
        (insertion : Insertion) (selection : Selection) (records : List (Record types)),
        (∀ record ∈ records, ∃ prepared,
          recorder.prepare (insertion.toStatement (record.row written)).sql = .ok prepared) →
        selection.columns.map Column.name = written.map WrittenField.column →
        connection.Serves selection.toStatement
          ⟨(Record.executed recorder insertion written records).map .ok, .ok ()⟩ →
        ∃ returned, List.Forall₂ (Record.Same written) returned records ∧
          ∀ old : Record types,
            (∀ record behind, returned = record :: behind →
              let fetched := selection.first connection [old.destination kind read]
              fetched.result = .ok () ∧ fetched.destinations = [record.destination kind read]) ∧
            ∀ rows : List Destination,
              let fetched := selection.all connection [.sequence (old.destination kind read) rows]
              fetched.result = .ok () ∧
                fetched.destinations = [.sequence (old.destination kind read)
                  (rows ++ returned.map fun record => record.destination kind read)] := by
  have same : (written.map fun field => ReadField.mk false field.field).map ReadField.field =
      written.map WrittenField.field := by
    simp [Function.comp_def]
  -- The fields that are read are those that are written, none of them nested.
  refine ⟨_, record_of_insertable derived, by simp, same, ?_, ?_⟩
  · intro record
    exact ⟨record.quieted, record.same_quieted written,
      fun old => record.receive_row old kind same faithful⟩
  · intro ι κ _ recorder connection insertion selection records accepted columns serves
    -- What was executed are the rows of the records, and these are what the selection gets.
    rw [Record.executed_eq_map records inhabited accepted, List.map_map] at serves
    have aligned : (written.map fun field => ReadField.mk false field.field).length =
        selection.columns.length := by
      have counted := congrArg List.length columns
      simpa using counted.symm
    have returns : List.Forall₂ (Record.Same written) (records.map Record.quieted) records := by
      rw [List.forall₂_map_left_iff, List.forall₂_same]
      exact fun record _ => record.same_quieted written
    refine ⟨records.map Record.quieted, returns, fun old => ⟨?_, ?_⟩⟩
    · intro record behind first
      -- The first record that returns is the one that was inserted first.
      obtain ⟨inserted, others, rfl, rfl, -⟩ := List.map_eq_cons_iff.mp first
      exact Record.first_of_serves old kind aligned same faithful serves
    · intro rows
      rw [List.map_map]
      exact Record.all_of_serves old kind rows aligned same faithful serves

/-- The record whose fields hold given values, and what they hold at first where these do not
fit. -/
def Record.ofValues (types : String → FieldType) (values : String → Value) : Record types where
  content field := ((types field).ofValue (values field)).toOption.getD (types field).initial

/-- A declaration of notes, whose numbers go to a column of another name. -/
def notes : Declaration where
  body := .named [
    ⟨"id", [⟨"tessera", .listed [.word "column", .equals, .string "note_id"]⟩]⟩, ⟨"title", []⟩,
    ⟨"weight", []⟩]

/-- The types of a note's fields. -/
def noteTypes (field : String) : FieldType :=
  if field = "id" then .int32 else if field = "title" then .optional .text else .optional .float32

/-- A note with a number and perhaps a title and a weight. -/
def note (id : Int64) (title weight : Value) : Record noteTypes :=
  .ofValues noteTypes fun field =>
    if field = "id" then .int id else if field = "title" then title else weight

/-- Two notes, one of them without a title and with a weight that is no number, are inserted, and a
selection of their columns in any table finds them again. -/
theorem inserted_records_return_as_notes :
    let written : List WrittenField :=
      [⟨"note_id", "id"⟩, ⟨"title", "title"⟩, ⟨"weight", "weight"⟩]
    let inserted := [note 7 (.text "?") .null, note (-1) .null (.float Number.Binary64.nan)]
    let executed := Record.executed ({} : Memory).connection ⟨"notes", {}⟩ written inserted
    let selection : Selection :=
      ⟨[⟨"n", "note_id"⟩, ⟨"m", "title"⟩, ⟨"m", "weight"⟩], [], [], {}⟩
    let connection := (Memory.serving executed (.ok ())).connection
    ∃ read returned, notes.record = .ok read ∧
      List.Forall₂ (Record.Same written) returned inserted ∧
      let fresh := (note 0 .null .null).destination "Note" read
      let fetched := selection.all connection [.sequence fresh [fresh]]
      fetched.result = .ok () ∧ fetched.destinations =
        [.sequence fresh (fresh :: returned.map fun note => note.destination "Note" read)] := by
  intro written inserted executed selection connection
  have derived : notes.insertable = .ok written := by decide +kernel
  have faithful : ∀ field ∈ written, (noteTypes field.field).isFaithful = true := by decide
  obtain ⟨read, reads, -, -, -, returns⟩ :=
    inserted_records_return derived (by decide) faithful "Note"
  -- The memory prepares any text, and it serves what has been executed on it.
  have prepares : ∀ note ∈ inserted, ∃ prepared, ({} : Memory).connection.prepare
      ((⟨"notes", {}⟩ : Insertion).toStatement (note.row written)).sql = .ok prepared :=
    fun _ _ => ⟨_, rfl⟩
  have serves := Memory.serves_serving executed (.ok ()) selection.toStatement
  obtain ⟨returned, same, selected⟩ :=
    returns _ connection ⟨"notes", {}⟩ selection inserted prepares rfl serves
  exact ⟨read, returned, reads, same, (selected (note 0 .null .null)).2 _⟩

end Mapping

end RowQuery
