import RowQuery.Proofs.Destination.Refusals
import RowQuery.Proofs.Execution.Serving

/-!
The check in front of a selection. It rejects destinations for their shape or their width before
anything is asked, and what passes it cannot fail for its width, as long as the rows have as many
values as there are columns. Without the check a width is compared with the rows only.
-/

namespace RowQuery

open Destination

/-- The first of several destinations that is no sequence, and its index. -/
structure Destination.IsFirstOther (destinations : List Destination) (index : Nat)
    (destination : Destination) : Prop where
  found : destinations[index]? = some destination
  noSequence : destination.isSequence = false
  before : ∀ earlier < index, ∀ other, destinations[earlier]? = some other →
    other.isSequence = true

/-- A call that is rejected: it fails before anything is asked or reported, and leaves its
destinations as they were. -/
structure Fetched.Rejected (fetched : Fetched) (destinations : List Destination) (error : Error) :
    Prop where
  result : fetched.result = .error error
  actions : fetched.actions = []
  destinations : fetched.destinations = destinations

/-- Behind a sequence, the first destination that is none comes one place later. -/
theorem Destination.isFirstOther_cons_iff {first destination : Destination}
    {rest : List Destination} (sequential : first.isSequence = true) {index : Nat} :
    IsFirstOther (first :: rest) index destination ↔
      ∃ earlier, index = earlier + 1 ∧ IsFirstOther rest earlier destination := by
  -- The sequence in front is none of the others, and the rest are shifted by one.
  constructor
  · rintro ⟨found, noSequence, before⟩
    cases index with
    | zero =>
      rw [← Option.some.inj found, sequential] at noSequence
      contradiction
    | succ index =>
      exact ⟨index, rfl, found, noSequence, fun earlier early other there =>
        before (earlier + 1) (by omega) other there⟩
  · rintro ⟨index, rfl, found, noSequence, before⟩
    refine ⟨found, noSequence, fun earlier early other there => ?_⟩
    cases earlier with
    | zero => exact Option.some.inj there ▸ sequential
    | succ earlier => exact before earlier (by omega) other there

/-- If the first destination is no sequence, it is the first that is none. -/
theorem Destination.isFirstOther_of_head {first destination : Destination}
    {rest : List Destination} (noSequence : first.isSequence = false) {index : Nat} :
    IsFirstOther (first :: rest) index destination ↔ index = 0 ∧ destination = first := by
  constructor
  · rintro ⟨found, -, before⟩
    cases index with
    | zero => exact ⟨rfl, (Option.some.inj found).symm⟩
    | succ index =>
      -- It would be one of the sequences in front.
      have sequential := before 0 (by omega) first rfl
      rw [noSequence] at sequential
      contradiction
  · rintro ⟨rfl, rfl⟩
    exact ⟨rfl, noSequence, fun earlier early => by omega⟩

/-- Destinations fail to be recognised as sequences exactly because of the first that is none. -/
theorem RowSequence.ofDestinationsFrom_eq_error_iff {start : Nat}
    {destinations : List Destination} {error : Error} :
    ofDestinationsFrom start destinations = .error error ↔
      ∃ index destination, IsFirstOther destinations index destination ∧
        error = .notASequence (start + index) destination.kind := by
  -- The induction is on the destinations, of which the first non-sequence ends the recognition.
  induction destinations generalizing start with
  | nil =>
    constructor
    · intro failed
      contradiction
    · rintro ⟨index, destination, ⟨found, _, _⟩, _⟩
      simp at found
  | cons first rest ih =>
    cases sequential : first.isSequence with
    | true =>
      obtain ⟨element, rows, rfl⟩ : ∃ element rows, first = .sequence element rows := by
        cases first <;> simp [isSequence] at sequential ⊢
      -- The rest decides, counted from one place later on.
      have later : ofDestinationsFrom start (.sequence element rows :: rest) = .error error ↔
          ofDestinationsFrom (start + 1) rest = .error error := by
        rw [ofDestinationsFrom]
        cases ofDestinationsFrom (start + 1) rest <;> simp [Except.map]
      simp only [later, ih, isFirstOther_cons_iff sequential]
      constructor
      · rintro ⟨index, destination, other, rfl⟩
        exact ⟨index + 1, destination, ⟨index, rfl, other⟩, by congr 1; omega⟩
      · rintro ⟨_, destination, ⟨index, rfl, other⟩, rfl⟩
        exact ⟨index, destination, other, by congr 1; omega⟩
    | false =>
      have failed : ofDestinationsFrom start (first :: rest) =
          .error (.notASequence start first.kind) := by
        cases first with
        | sequence element rows => contradiction
        | _ => rfl
      simp only [failed, isFirstOther_of_head sequential, Except.error.injEq]
      constructor
      · rintro rfl
        exact ⟨0, first, ⟨rfl, rfl⟩, rfl⟩
      · rintro ⟨_, _, ⟨rfl, rfl⟩, rfl⟩
        rfl

/-- The one that they fail for is told by its index. -/
theorem RowSequence.ofDestinations_eq_error_iff {destinations : List Destination} {error : Error} :
    ofDestinations destinations = .error error ↔
      ∃ index destination, IsFirstOther destinations index destination ∧
        error = .notASequence index destination.kind := by
  rw [ofDestinations, ofDestinationsFrom_eq_error_iff]
  simp only [Nat.zero_add]

/-- A call that is rejected has asked for nothing. -/
theorem Fetched.Rejected.requests {fetched : Fetched} {destinations : List Destination}
    {error : Error} (rejected : fetched.Rejected destinations error) : fetched.requests = [] := by
  rw [Run.requests, rejected.actions]
  rfl

/-- A call that passes its check prepares its statement before it asks for anything else. -/
theorem Conducts.exists_requests_eq_cons {κ α β : Type} {connection : Connection κ}
    {check : Except Error β} {statement : Statement} {run : Request}
    {Ends : PreparedStatement κ → List CursorCall → Except Error α → Prop}
    {requests : List Request} {result : Except Error α}
    (conduct : Conducts connection check statement run Ends requests result)
    (passed : ∀ error, check ≠ .error error) :
    ∃ behind, requests = .prepare statement.sql :: behind := by
  -- Every way to conduct a call but the rejection begins with the same request.
  cases conduct with
  | rejected failed => exact absurd failed (passed _)
  | unprepared _ _ => exact ⟨[], rfl⟩
  | carriedOut _ _ _ => exact ⟨_, rfl⟩

namespace Selection

/-- Why a selection rejects destinations that a single row is to be laid over. -/
inductive RejectsRecords (selection : Selection) (destinations : List Destination) :
    Error → Prop where
  /-- There is a sequence in them, and the first one is named. -/
  | nested {address : List Nat} {found : Destination} :
    IsFirstSequence destinations address found →
    RejectsRecords selection destinations (.unexpectedSequence found.kind)
  /-- They do not have a cell for each column, if this is to be checked. -/
  | width :
    areFlat destinations = true → selection.options.checkWidth = true →
    totalWidth destinations ≠ selection.columns.length →
    RejectsRecords selection destinations
      (.arity selection.columns.length (totalWidth destinations))

/-- Why a selection rejects destinations that every row is to be added to. -/
inductive RejectsSequences (selection : Selection) (destinations : List Destination) :
    Error → Prop where
  /-- One of them is the first that is no sequence. -/
  | notASequence {index : Nat} {destination : Destination} :
    IsFirstOther destinations index destination →
    RejectsSequences selection destinations (.notASequence index destination.kind)
  /-- One element of each could not take a row, if this is to be checked. -/
  | elements {sequences : List RowSequence} {error : Error} :
    destinations = sequences.map RowSequence.toDestination →
    selection.options.checkWidth = true →
    selection.RejectsRecords (RowSequence.freshElements sequences) error →
    RejectsSequences selection destinations error

variable {selection : Selection} {destinations : List Destination} {error : Error}

/-- Destinations for a single row fail the check exactly for a reason to reject them. -/
theorem checkRecords_eq_error_iff :
    selection.checkRecords destinations = .error error ↔
      selection.RejectsRecords destinations error := by
  -- Flattening comes first, and the width is compared only if it succeeds.
  cases flattened : flatten destinations with
  | error reason =>
    rw [selection.checkRecords_of_error flattened, Except.error.injEq]
    obtain ⟨address, found, first, rfl⟩ := flatten_eq_error_iff.mp flattened
    constructor
    · rintro rfl
      exact .nested first
    · intro rejects
      cases rejects with
      | nested first' => rw [first.unique first']
      | width flat _ _ =>
        rw [not_areFlat_of_isSequence first.stands first.isSequence] at flat
        contradiction
  | ok cells =>
    obtain ⟨flat, rfl⟩ := flatten_eq_ok_iff.mp flattened
    have checked : selection.checkRecords destinations =
        selection.checkWidth (totalWidth destinations) := by
      simp [checkRecords, Destination.width, flattened, Except.map, Bind.bind, Except.bind,
        length_leavesOfAll]
    rw [checked, checkWidth]
    constructor
    · intro failed
      split at failed
      · rename_i differs
        rw [← Except.error.inj failed]
        exact .width flat differs.1 differs.2
      · contradiction
    · intro rejects
      cases rejects with
      | nested first =>
        rw [not_areFlat_of_isSequence first.stands first.isSequence] at flat
        contradiction
      | width _ on differs => rw [if_pos ⟨on, differs⟩]

/-- Destinations for all rows fail the check exactly for a reason to reject them. -/
theorem sequencesFor_eq_error_iff :
    selection.sequencesFor destinations = .error error ↔
      selection.RejectsSequences destinations error := by
  cases recognised : RowSequence.ofDestinations destinations with
  | error reason =>
    have failed : selection.sequencesFor destinations = .error reason := by
      simp [sequencesFor_eq, recognised, Except.bind]
    rw [failed, ← recognised]
    constructor
    · intro same
      obtain ⟨index, destination, other, rfl⟩ := RowSequence.ofDestinations_eq_error_iff.mp same
      exact .notASequence other
    · intro rejects
      cases rejects with
      | notASequence other =>
        exact RowSequence.ofDestinations_eq_error_iff.mpr ⟨_, _, other, rfl⟩
      | elements same _ _ =>
        rw [same, RowSequence.ofDestinations_toDestination] at recognised
        contradiction
  | ok sequences =>
    obtain rfl := RowSequence.eq_map_toDestination recognised
    rw [sequencesFor_toDestination]
    constructor
    · intro failed
      -- The check has failed, so that it has been made.
      cases checked : selection.checkSequences sequences with
      | ok _ => simp [checked, Except.map] at failed
      | error reason =>
        rw [checked, Except.map, Except.error.injEq] at failed
        rw [checkSequences_eq] at checked
        split at checked
        · rename_i on
          exact .elements rfl on (checkRecords_eq_error_iff.mp (failed ▸ checked))
        · contradiction
    · intro rejects
      cases rejects with
      | notASequence other =>
        rw [RowSequence.ofDestinations_eq_error_iff.mpr ⟨_, _, other, rfl⟩] at recognised
        contradiction
      | @elements others _ same on rejects =>
        have these : RowSequence.ofDestinations (others.map RowSequence.toDestination) =
            .ok others := RowSequence.ofDestinations_toDestination others
        rw [← same, recognised, Except.ok.injEq] at these
        rw [checkSequences_eq, if_pos on, these, checkRecords_eq_error_iff.mpr rejects, Except.map]

variable {κ : Type}

/-- A selection of the first row is rejected exactly for a reason to reject its destinations. -/
theorem first_rejected_iff {connection : Connection κ} :
    (selection.first connection destinations).Rejected destinations error ↔
      selection.RejectsRecords destinations error := by
  rw [← checkRecords_eq_error_iff]
  cases checked : selection.checkRecords destinations with
  | error reason =>
    have run : selection.first connection destinations =
        { result := .error reason, destinations } := by
      simp [first, checked]
    rw [run]
    exact ⟨Fetched.Rejected.result, fun same => ⟨same, rfl, rfl⟩⟩
  | ok _ =>
    constructor
    · intro rejected
      -- The statement would have been prepared.
      have conduct := selection.first_conducts connection destinations
      obtain ⟨behind, asked⟩ := conduct.exists_requests_eq_cons (by simp [checked])
      rw [rejected.requests] at asked
      contradiction
    · intro failed
      contradiction

/-- A selection of all rows is rejected exactly for a reason to reject its destinations. -/
theorem all_rejected_iff [Cursor κ] {connection : Connection κ} :
    (selection.all connection destinations).Rejected destinations error ↔
      selection.RejectsSequences destinations error := by
  rw [← sequencesFor_eq_error_iff]
  -- What passes the check is asked for, and a rejected call has asked for nothing.
  cases accepted : selection.sequencesFor destinations with
  | error reason =>
    rw [all_of_rejected connection accepted]
    constructor
    · intro rejected
      exact congrArg Except.error (Except.error.inj rejected.result)
    · intro same
      exact ⟨congrArg Except.error (Except.error.inj same), rfl, rfl⟩
  | ok sequences =>
    constructor
    · intro rejected
      have conduct := selection.all_conducts connection destinations
      obtain ⟨behind, asked⟩ := conduct.exists_requests_eq_cons (by simp [accepted])
      rw [rejected.requests] at asked
      contradiction
    · intro failed
      contradiction

end Selection

/-- A walk that fails at a row, counted from the first to come. The fresh elements accept the rows
in front of it and refuse it for the error that is the result, and those behind are not moved to. -/
structure FailsAt {κ : Type} [Cursor κ] (fresh : List Destination) (cursor : κ)
    (calls : List CursorCall) (result : Except Error Unit) (place : Nat) (error : Error) :
    Prop where
  accepted : ∀ row ∈ (Cursor.rowsToCome cursor).take place, Accepts fresh row
  refused : ∃ row, (Cursor.rowsToCome cursor)[place]? = some row ∧
    Cell.Refuses (leavesOfAll fresh) row error
  result : result = .error error
  calls : calls = CursorCall.taking place ++ [.next, .scan, .close]

/-- Destinations that differ in contents only are equally wide, each as its counterpart. -/
theorem Destination.widths_of_blankAll {left right : List Destination}
    (same : blankAll left = blankAll right) :
    (left.map fun destination => destination.leaves.length) =
      right.map fun destination => destination.leaves.length := by
  -- Blanking keeps the number of leaves, so it can be counted on the blanks.
  have widths : ∀ destination : Destination,
      destination.blank.leaves.length = destination.leaves.length := by
    intro destination
    rw [leaves_blank, List.length_map]
  have blanks := congrArg (List.map fun destination => destination.leaves.length) same
  simpa only [blankAll_eq_map, List.map_map, Function.comp_def, widths] using blanks

section Walk

variable {κ : Type} [Cursor κ] {fresh : List Destination} {cursor : κ} {calls : List CursorCall}
  {result : Except Error Unit}

/-- A walk does not fail behind a row that is not accepted. -/
theorem FailsAt.le_of_not_accepts {place earlier : Nat} {error : Error}
    (fails : FailsAt fresh cursor calls result earlier error) {row : Except Error (List Value)}
    (comes : (Cursor.rowsToCome cursor)[place]? = some row) (refused : ¬ Accepts fresh row) :
    earlier ≤ place := by
  by_contra late
  -- The row would be one of those in front.
  rw [← List.getElem?_take_of_lt (by omega : place < earlier)] at comes
  exact refused (fails.accepted row (List.mem_of_getElem? comes))

/-- A walk fails at a row, unless all rows are accepted. -/
theorem Walks.exists_failsAt (flat : areFlat fresh = true)
    (walk : Walks fresh cursor calls result) :
    (∀ row ∈ Cursor.rowsToCome cursor, Accepts fresh row) ∨
      ∃ place error, FailsAt fresh cursor calls result place error := by
  cases walk with
  | toEnd rows accepted _ _ => exact .inl (rows ▸ accepted)
  | @toFailure before behind row error rows accepted failed =>
    -- The place is behind all rows that have been accepted.
    have refuses := (receive_eq_error_iff flat).mp failed
    refine .inr ⟨before.length, error, ?_, ⟨row, ?_, refuses⟩, rfl, ?_⟩
    · rw [rows, List.take_left]
      exact accepted
    · rw [rows, List.getElem?_append_right (le_refl _), Nat.sub_self]
      rfl
    · rw [if_pos flat]
      rfl

end Walk

namespace Selection

/-- What it is worth that destinations for a single row are not rejected: the statement is prepared,
and with the check on, a row with a value for each column fails for one of its values only. -/
structure ForeseesFirst {κ : Type} (selection : Selection) (connection : Connection κ)
    (destinations : List Destination) : Prop where
  prepares : ∃ behind, (selection.first connection destinations).requests =
    .prepare selection.toStatement.sql :: behind
  checked : selection.options.checkWidth = true → ∀ values error,
    connection.firstRowOf selection.toStatement = .ok values →
    values.length = selection.columns.length →
    (selection.first connection destinations).result = .error error →
    ∃ position mismatch, Cell.FirstUnfit (leavesOfAll destinations) values position mismatch ∧
      error = .decode (toString position) (Error.typeMismatch mismatch).message

/-- What it is worth that destinations for all rows are not rejected. The statement is prepared, and
every element that is added is as wide as a fresh one. Elements that can take rows take all of them,
or there is one that the selection fails at. With the check on, they can take rows and have a cell
for each column, so that a row with a value for each column fails for one of its values only. With
or without it, a row that has another length than there are cells fails for that, unless one in
front of it does. -/
structure ForeseesAll {κ : Type} [Cursor κ] (selection : Selection) (connection : Connection κ)
    (sequences : List RowSequence) (fetched : Fetched) : Prop where
  prepares : ∃ behind, fetched.requests = .prepare selection.toStatement.sql :: behind
  widths : ∃ after batches,
    GrownBy sequences (connection.rowsOf selection.toStatement) after batches ∧
    fetched.destinations = after.map RowSequence.toDestination ∧
    ∀ batch ∈ batches, (batch.map fun element => element.leaves.length) =
      (RowSequence.freshElements sequences).map fun element => element.leaves.length
  failure : areFlat (RowSequence.freshElements sequences) = true →
    ∀ cursor, connection.Opens selection.toStatement cursor →
    (∀ row ∈ Cursor.rowsToCome cursor, Accepts (RowSequence.freshElements sequences) row) ∨
      ∃ place error, FailsAt (RowSequence.freshElements sequences) cursor fetched.cursorCalls
        fetched.result place error
  checked : selection.options.checkWidth = true →
    areFlat (RowSequence.freshElements sequences) = true ∧
    totalWidth (RowSequence.freshElements sequences) = selection.columns.length ∧
    ∀ cursor, connection.Opens selection.toStatement cursor →
    ∀ place values error, (Cursor.rowsToCome cursor)[place]? = some (.ok values) →
    values.length = selection.columns.length →
    FailsAt (RowSequence.freshElements sequences) cursor fetched.cursorCalls fetched.result place
      error →
    ∃ position mismatch, Cell.FirstUnfit (leavesOfAll (RowSequence.freshElements sequences)) values
        position mismatch ∧
      error = .decode (toString position) (Error.typeMismatch mismatch).message
  unchecked : areFlat (RowSequence.freshElements sequences) = true →
    ∀ cursor, connection.Opens selection.toStatement cursor →
    ∀ place values, (Cursor.rowsToCome cursor)[place]? = some (.ok values) →
    values.length ≠ totalWidth (RowSequence.freshElements sequences) →
    ∃ earlier ≤ place, ∃ error,
      FailsAt (RowSequence.freshElements sequences) cursor fetched.cursorCalls fetched.result
        earlier error ∧
      (earlier = place →
        error = .ofLengths values.length (totalWidth (RowSequence.freshElements sequences)))

variable {selection : Selection} {destinations : List Destination}

/-- Destinations for a single row that are not rejected pass the check. They are flat, and with the
check on they have a cell for each column. -/
theorem checkRecords_of_not_rejected
    (passed : ∀ error, ¬ selection.RejectsRecords destinations error) :
    selection.checkRecords destinations = .ok () ∧ areFlat destinations = true ∧
      (selection.options.checkWidth = true →
        (leavesOfAll destinations).length = selection.columns.length) := by
  -- A failed check would be a reason to reject.
  have checked : selection.checkRecords destinations = .ok () := by
    cases failed : selection.checkRecords destinations with
    | ok _ => rfl
    | error error => exact absurd (checkRecords_eq_error_iff.mp failed) (passed error)
  have flat := areFlat_of_checkRecords checked
  refine ⟨checked, flat, fun on => ?_⟩
  by_contra differs
  rw [length_leavesOfAll] at differs
  exact passed _ (.width flat on differs)

/-- The check foresees what becomes of the first row. -/
theorem foreseesFirst_of_not_rejected {κ : Type} (connection : Connection κ)
    (passed : ∀ error, ¬ selection.RejectsRecords destinations error) :
    selection.ForeseesFirst connection destinations := by
  obtain ⟨checked, flat, width⟩ := checkRecords_of_not_rejected passed
  -- What passes the check is asked for, and the check has counted the cells.
  constructor
  · exact (selection.first_conducts connection destinations).exists_requests_eq_cons
      (by simp [checked])
  · intro on values error answered aligned failed
    have outcome := congrArg Outcome.result (selection.outcome_first connection destinations)
    simp only [firstOutcome, checked, answered] at outcome
    have refuses := (receive_eq_error_iff flat).mp (outcome.symm.trans failed)
    exact refuses.of_aligned (aligned.trans (width on).symm)

/-- The check foresees what becomes of all rows. -/
theorem foreseesAll_of_not_rejected {κ : Type} [Cursor κ] (connection : Connection κ)
    (passed : ∀ error, ¬ selection.RejectsSequences destinations error) :
    ∃ sequences, destinations = sequences.map RowSequence.toDestination ∧
      selection.ForeseesAll connection sequences (selection.all connection destinations) := by
  cases accepted : selection.sequencesFor destinations with
  | error error => exact absurd (sequencesFor_eq_error_iff.mp accepted) (passed error)
  | ok sequences =>
    obtain ⟨recognised, checked⟩ := sequencesFor_eq_ok_iff.mp accepted
    have same := RowSequence.eq_map_toDestination recognised
    refine ⟨sequences, same, ?_, ?_, ?_, ?_, ?_⟩
    · exact (selection.all_conducts connection destinations).exists_requests_eq_cons
        (by simp [accepted])
    · obtain ⟨after, batches, growth, grown, _⟩ := all_grows connection checked
      rw [← same] at grown
      refine ⟨after, batches, growth, grown, fun batch member => ?_⟩
      obtain ⟨place, found⟩ := List.getElem?_of_mem member
      obtain ⟨row, _, held⟩ := growth.holds place batch found
      exact widths_of_blankAll held.1
    · intro flat cursor opens
      exact (all_walks accepted opens).exists_failsAt flat
    · intro on
      -- The elements are not rejected either, or the destinations would be.
      obtain ⟨_, flat, width⟩ := checkRecords_of_not_rejected
        fun reason rejects => passed reason (.elements same on rejects)
      refine ⟨flat, length_leavesOfAll _ ▸ width on, ?_⟩
      rintro cursor opens place values error comes aligned ⟨_, ⟨row, here, refuses⟩, _, _⟩
      rw [comes, Option.some.injEq] at here
      subst here
      exact refuses.of_aligned (aligned.trans (width on).symm)
    · intro flat cursor opens place values comes misaligned
      rw [← length_leavesOfAll] at misaligned
      have refused : ¬ Accepts (RowSequence.freshElements sequences) (.ok values) := by
        rintro ⟨_, own, given, fits⟩
        exact misaligned (Except.ok.inj given ▸ fits.length_eq.symm)
      rcases (all_walks accepted opens).exists_failsAt flat with all | ⟨earlier, error, fails⟩
      · exact absurd (all _ (List.mem_of_getElem? comes)) refused
      refine ⟨earlier, fails.le_of_not_accepts comes refused, error, fails, ?_⟩
      rintro rfl
      -- The row that fails is this one, and it fails for its length.
      obtain ⟨row, here, refuses⟩ := fails.refused
      rw [comes, Option.some.injEq] at here
      subst here
      cases refuses with
      | length _ => rw [length_leavesOfAll]
      | value aligned _ => exact absurd aligned misaligned

end Selection

/-- What a selection rejects, and what it is worth that it does not. Destinations for a single row
are rejected for the first sequence in them, and then for their width. Destinations for all rows are
rejected for the first that is no sequence, and then, if the check is on, for what is wrong with one
element of each. A call that is rejected asks for nothing and changes nothing, and whatever is not
rejected can only fail as the check foresees. -/
theorem checks_foresee_lengths {κ : Type} [Cursor κ] (connection : Connection κ)
    (selection : Selection) (destinations : List Destination) :
    let first := selection.first connection destinations
    let all := selection.all connection destinations
    (∀ error, first.Rejected destinations error ↔ selection.RejectsRecords destinations error) ∧
    (∀ error, all.Rejected destinations error ↔ selection.RejectsSequences destinations error) ∧
    ((∀ error, ¬ selection.RejectsRecords destinations error) →
      selection.ForeseesFirst connection destinations) ∧
    ((∀ error, ¬ selection.RejectsSequences destinations error) →
      ∃ sequences, destinations = sequences.map RowSequence.toDestination ∧
        selection.ForeseesAll connection sequences all) :=
  ⟨fun _ => Selection.first_rejected_iff, fun _ => Selection.all_rejected_iff,
    Selection.foreseesFirst_of_not_rejected connection,
    Selection.foreseesAll_of_not_rejected connection⟩

/-- Two sequences and a record pass the check. Without it, a second row that has no name makes a
selection of all rows fail for its length, behind a first one that is taken up. -/
theorem checks_foresee_lengths_in_memory :
    let connection := ({ rows := [[.int 1, .text "ann"], [.int 2]] } : Memory).connection
    let columns : List Column := [⟨"users", "id"⟩, ⟨"users", "name"⟩]
    let checked : Selection := ⟨columns, [], [], {}⟩
    let unchecked : Selection := ⟨columns, [], [], { checkWidth := false }⟩
    let record : Destination := .tuple [.int64, .text]
    let sequences : List RowSequence := [⟨.tuple [.int64], []⟩, ⟨.tuple [.text], []⟩]
    let destinations := sequences.map RowSequence.toDestination
    (∀ error, ¬ checked.RejectsRecords [record] error) ∧
      checked.ForeseesFirst connection [record] ∧
      (∀ error, ¬ unchecked.RejectsSequences destinations error) ∧
      (unchecked.all connection destinations).result = .error (.ofLengths 1 2) := by
  intro connection columns checked unchecked record sequences destinations
  have passed : ∀ error, ¬ checked.RejectsRecords [record] error := by
    intro error rejects
    have failed := Selection.checkRecords_eq_error_iff.mpr rejects
    have flattened := flatten_of_areFlat (show areFlat [record] = true from rfl)
    simp [Selection.checkRecords, Destination.width, flattened, Except.map, Bind.bind, Except.bind]
      at failed
    contradiction
  have passedAll : ∀ error, ¬ unchecked.RejectsSequences destinations error := by
    intro error rejects
    have failed := Selection.sequencesFor_eq_error_iff.mpr rejects
    have accepted : unchecked.sequencesFor destinations = .ok sequences := rfl
    rw [accepted] at failed
    contradiction
  obtain ⟨-, -, foreseesFirst, -⟩ := checks_foresee_lengths connection checked [record]
  obtain ⟨-, -, -, foreseesAll⟩ := checks_foresee_lengths connection unchecked destinations
  refine ⟨passed, foreseesFirst passed, passedAll, ?_⟩
  obtain ⟨others, same, foresees⟩ := foreseesAll passedAll
  obtain rfl : sequences = others := by
    have recognised := RowSequence.ofDestinations_toDestination others
    rw [← same, RowSequence.ofDestinations_toDestination] at recognised
    exact Except.ok.inj recognised
  let cursor : Memory.Rows := { pending := [[.int 1, .text "ann"], [.int 2]] }
  have opens : connection.Opens unchecked.toStatement cursor := ⟨_, rfl, rfl⟩
  have rows : Cursor.rowsToCome cursor = [.ok [.int 1, .text "ann"], .ok [.int 2]] :=
    congrArg Delivery.rows (Memory.delivery_of_no_failure cursor rfl rfl rfl)
  obtain ⟨earlier, notLate, error, fails, length⟩ :=
    foresees.unchecked rfl cursor opens 1 [.int 2] (by rw [rows]; rfl) (by decide)
  have notFirst : earlier ≠ 0 := by
    rintro rfl
    obtain ⟨row, here, refuses⟩ := fails.refused
    have failed := receive_of_refuses rfl refuses
    -- The first row fits.
    have accepted : Accepts (RowSequence.freshElements sequences)
        (.ok [.int 1, .text "ann"]) :=
      ⟨rfl, _, rfl, .cons ⟨(1 : Int64), rfl⟩ (.cons ⟨"ann", rfl⟩ .nil)⟩
    obtain ⟨filled, received, _⟩ := receive_of_accepts accepted
    rw [rows] at here
    rw [← Option.some.inj here, received] at failed
    contradiction
  have short : error = .ofLengths 1 2 := length (by omega)
  rw [fails.result, short]

end RowQuery
