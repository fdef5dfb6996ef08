import RowQuery.Execution
import RowQuery.Proofs.Destination.Rows

/-!
Selections of all rows grow their destinations in step. However a run ends, every destination has
gained as many elements as rows were taken up, and each of them holds its part of its row.
-/

namespace RowQuery

namespace Cursor

variable {κ : Type} [Cursor κ]

/-- The rows a cursor moves to, one after the other, until it finds no more. -/
def rowsToCome (cursor : κ) : List (Except Error (List Value)) :=
  if _ : (Cursor.next cursor).1 = true then
    Cursor.row (Cursor.next cursor).2 :: rowsToCome (Cursor.next cursor).2
  else []
termination_by Cursor.remaining cursor
decreasing_by exact Cursor.remaining_next cursor (by assumption)

/-- A cursor has no rows to come exactly if its next move finds none. -/
theorem rowsToCome_eq_nil_iff {cursor : κ} :
    rowsToCome cursor = [] ↔ ¬ (Cursor.next cursor).1 = true := by
  rw [rowsToCome]
  by_cases moved : (Cursor.next cursor).1 = true <;> simp [moved]

/-- A cursor has a row and others to come exactly if its next move finds that row and leaves the
others to come. -/
theorem rowsToCome_eq_cons_iff {cursor : κ} {row : Except Error (List Value)}
    {rows : List (Except Error (List Value))} :
    rowsToCome cursor = row :: rows ↔
      (Cursor.next cursor).1 = true ∧ Cursor.row (Cursor.next cursor).2 = row ∧
        rowsToCome (Cursor.next cursor).2 = rows := by
  -- A move that finds a row gives the head of the list, and any other gives none.
  rw [rowsToCome]
  by_cases moved : (Cursor.next cursor).1 = true <;> simp [moved]

end Cursor

/-- The rows a connection has for a statement: those of its cursor, and none if the statement is not
prepared or does not run. -/
def Connection.rowsOf {κ : Type} [Cursor κ] (connection : Connection κ) (statement : Statement) :
    List (Except Error (List Value)) :=
  match connection.prepare statement.sql with
  | .error _ => []
  | .ok prepared =>
    match prepared.allRows statement.binds with
    | .error _ => []
    | .ok cursor => Cursor.rowsToCome cursor

/-- A connection that does not prepare or run a statement has no rows for it. -/
theorem Connection.rowsOf_of_failed {κ : Type} [Cursor κ] {connection : Connection κ}
    {statement : Statement} {error : Error}
    (failed : connection.prepare statement.sql = .error error ∨
      ∃ prepared, connection.prepare statement.sql = .ok prepared ∧
        prepared.allRows statement.binds = .error error) :
    connection.rowsOf statement = [] := by
  -- Both failures leave no cursor whose rows could come.
  rcases failed with unprepared | ⟨prepared, found, unanswered⟩
  · simp [rowsOf, unprepared]
  · simp [rowsOf, found, unanswered]

namespace RowSequence

/-- Sequences stay as many as they are when each of them gains an element. -/
theorem length_pushEach {sequences : List RowSequence} {elements : List Destination}
    (aligned : elements.length = sequences.length) :
    (pushEach sequences elements).length = sequences.length := by
  simp [pushEach, aligned]

/-- The fresh elements of sequences are the same however they have grown. -/
theorem freshElements_pushEach {sequences : List RowSequence} {elements : List Destination}
    (aligned : elements.length = sequences.length) :
    freshElements (pushEach sequences elements) = freshElements sequences := by
  -- A sequence grows behind its fresh element, which it keeps.
  induction sequences generalizing elements with
  | nil => simp [pushEach, freshElements]
  | cons sequence rest ih =>
    cases elements with
    | nil => simp at aligned
    | cons element elements =>
      have others := ih (by simpa using aligned)
      simp only [freshElements, pushEach, List.zipWith_cons_cons, List.map_cons] at others ⊢
      rw [others]
      rfl

/-- After several elements have been pushed to every sequence, each has gained its own of them. A
fresh element stands in the statement where a batch would be too short. -/
theorem getElem?_foldl_pushEach (batches : List (List Destination)) (sequences : List RowSequence)
    (aligned : ∀ batch ∈ batches, batch.length = sequences.length) (place : Nat) :
    (batches.foldl pushEach sequences)[place]? = sequences[place]?.map fun sequence =>
      ⟨sequence.element,
        sequence.rows ++ batches.map fun batch => batch[place]?.getD sequence.element⟩ := by
  induction batches generalizing sequences with
  | nil => simp
  | cons batch batches ih =>
    have same : batch.length = sequences.length := aligned batch (by simp)
    have others : ∀ later ∈ batches, later.length = (pushEach sequences batch).length :=
      fun later member => by
        rw [length_pushEach same, aligned later (List.mem_cons_of_mem _ member)]
    rw [List.foldl_cons, ih _ others, pushEach, List.getElem?_zipWith]
    -- Either both the sequence and its new element exist, or neither does.
    by_cases inside : place < sequences.length
    · have within : place < batch.length := by omega
      simp [List.getElem?_eq_getElem inside, List.getElem?_eq_getElem within, push]
    · simp [List.getElem?_eq_none (Nat.le_of_not_lt inside)]

/-- Destinations that are all sequences are recognised as those sequences. -/
theorem ofDestinations_toDestination (sequences : List RowSequence) :
    ofDestinations (sequences.map toDestination) = .ok sequences := by
  -- The position only serves the error, which does not arise.
  have general : ∀ position,
      ofDestinationsFrom position (sequences.map toDestination) = .ok sequences := by
    induction sequences with
    | nil => intro position; rfl
    | cons sequence rest ih =>
      intro position
      simp [toDestination, ofDestinationsFrom, ih, Except.map]
  exact general 0

/-- Destinations that are recognised as sequences are these sequences. -/
theorem eq_map_toDestination {destinations : List Destination}
    {sequences : List RowSequence} (recognised : ofDestinations destinations = .ok sequences) :
    destinations = sequences.map toDestination := by
  -- The position only serves the error, so it is left open.
  have general : ∀ position, ofDestinationsFrom position destinations = .ok sequences →
      destinations = sequences.map toDestination := by
    clear recognised
    induction destinations generalizing sequences with
    | nil =>
      intro position found
      simp only [ofDestinationsFrom, Except.ok.injEq] at found
      rw [← found]
      rfl
    | cons destination rest ih =>
      intro position found
      cases destination with
      | sequence element rows =>
        cases later : ofDestinationsFrom (position + 1) rest with
        | error error => simp [ofDestinationsFrom, later, Except.map] at found
        | ok others =>
          simp only [ofDestinationsFrom, later, Except.map, Except.ok.injEq] at found
          rw [← found, List.map_cons, ← ih (position + 1) later]
          rfl
      | scalar cell => simp [ofDestinationsFrom] at found
      | record kind fields => simp [ofDestinationsFrom] at found
  exact general 0 recognised

end RowSequence

/-- Sequences grown by the rows of a list: row by row, one element each, which together hold the
row, up to the first row that their elements do not accept. -/
structure GrownBy (before : List RowSequence) (rows : List (Except Error (List Value)))
    (after : List RowSequence) (batches : List (List Destination)) : Prop where
  /-- Every batch holds the row at its place in the list. -/
  holds : ∀ (place : Nat) (batch : List Destination), batches[place]? = some batch →
    ∃ row, rows[place]? = some row ∧
      Destination.HoldRow (RowSequence.freshElements before) row batch
  /-- The row behind those of the batches, if there is one, is not accepted. -/
  refused : ∀ row, rows[batches.length]? = some row →
    ¬ Destination.Accepts (RowSequence.freshElements before) row
  /-- The sequences have gained the elements of all batches. -/
  grown : after = batches.foldl RowSequence.pushEach before

namespace GrownBy

/-- A batch of elements that hold a row has one element for each sequence. -/
theorem length_of_holdRow {sequences : List RowSequence} {row : Except Error (List Value)}
    {batch : List Destination}
    (holds : Destination.HoldRow (RowSequence.freshElements sequences) row batch) :
    batch.length = sequences.length := by
  -- Blanked, the batch is the list of fresh elements.
  have blanks := congrArg List.length holds.1
  simpa [Destination.blankAll_eq_map, RowSequence.freshElements] using blanks

/-- Every batch has one element for each sequence. -/
theorem length_batch {before after : List RowSequence} {rows : List (Except Error (List Value))}
    {batches : List (List Destination)} (growth : GrownBy before rows after batches) :
    ∀ batch ∈ batches, batch.length = before.length := by
  intro batch member
  -- A batch is at some place, and the row there is held by it.
  obtain ⟨place, found⟩ := List.getElem?_of_mem member
  obtain ⟨row, _, holds⟩ := growth.holds place batch found
  exact length_of_holdRow holds

/-- Nothing grows without rows. -/
theorem nil (sequences : List RowSequence) : GrownBy sequences [] sequences [] where
  holds := by simp
  refused := by simp
  grown := rfl

/-- There is nothing to grow by without rows. -/
theorem eq_nil {before after : List RowSequence} {batches : List (List Destination)}
    (growth : GrownBy before [] after batches) : batches = [] := by
  -- A first batch would hold a first row.
  cases batches with
  | nil => rfl
  | cons batch batches =>
    obtain ⟨row, found, _⟩ := growth.holds 0 batch rfl
    simp at found

/-- A row that is not accepted stops the growth, whatever rows come behind it. -/
theorem stop {sequences : List RowSequence} {row : Except Error (List Value)}
    (rows : List (Except Error (List Value)))
    (refused : ¬ Destination.Accepts (RowSequence.freshElements sequences) row) :
    GrownBy sequences (row :: rows) sequences [] where
  holds := by simp
  refused := by simpa using refused
  grown := rfl

/-- A row that is held by one more element each comes before the growth by the rows behind it. -/
theorem cons {before after : List RowSequence} {row : Except Error (List Value)}
    {rows : List (Except Error (List Value))} {batch : List Destination}
    {batches : List (List Destination)}
    (holds : Destination.HoldRow (RowSequence.freshElements before) row batch)
    (growth : GrownBy (RowSequence.pushEach before batch) rows after batches) :
    GrownBy before (row :: rows) after (batch :: batches) := by
  have fresh : RowSequence.freshElements (RowSequence.pushEach before batch) =
      RowSequence.freshElements before :=
    RowSequence.freshElements_pushEach (length_of_holdRow holds)
  refine ⟨?_, ?_, ?_⟩
  · -- The first batch holds the first row, and later ones were counted without it.
    intro place found
    cases place with
    | zero => simpa using fun same => same ▸ holds
    | succ place => simpa [fresh] using growth.holds place found
  · simpa [fresh] using growth.refused
  · simpa using growth.grown

/-- The new elements by their rows and sequences: every sequence is followed by its own of them, and
every batch consists of its own of them. -/
theorem exists_elements {before after : List RowSequence}
    {rows : List (Except Error (List Value))} {batches : List (List Destination)}
    (growth : GrownBy before rows after batches) :
    ∃ new : Fin batches.length → Fin before.length → Destination,
      after.map RowSequence.toDestination =
        List.ofFn (fun j => .sequence before[j].element
          (before[j].rows ++ List.ofFn fun i => new i j)) ∧
      ∀ i, batches[i] = List.ofFn (new i) := by
  have widths : ∀ i : Fin batches.length, batches[i].length = before.length :=
    fun i => growth.length_batch _ (List.getElem_mem i.isLt)
  refine ⟨fun i j => batches[i].get (j.cast (widths i).symm), ?_, ?_⟩
  · -- The sequences are compared place by place, as the pushing was described.
    refine List.ext_getElem? fun place => ?_
    rw [growth.grown, List.getElem?_map,
      RowSequence.getElem?_foldl_pushEach batches before growth.length_batch]
    by_cases inside : place < before.length
    · -- Picking one element of every batch gives as many elements as there are batches.
      have picked : (batches.map fun batch => batch[place]?.getD before[place].element) =
          List.ofFn fun i : Fin batches.length =>
            batches[i].get ⟨place, Nat.lt_of_lt_of_eq inside (widths i).symm⟩ := by
        refine List.ext_getElem (by simp) fun i within _ => ?_
        have bound : i < batches.length := by simpa using within
        have wide : place < batches[i].length :=
          Nat.lt_of_lt_of_eq inside (widths ⟨i, bound⟩).symm
        simp [wide]
      simp [inside, picked, RowSequence.toDestination]
    · simp [inside]
  · intro i
    exact List.ext_getElem (by rw [widths, List.length_ofFn]) (by simp)

end GrownBy

section TakeRows

variable {κ : Type} [Cursor κ]

/-- Without a next row the walk is over. -/
theorem takeRows_of_ended {cursor : κ} (sequences : List RowSequence)
    (ended : ¬ (Cursor.next cursor).1 = true) :
    takeRows cursor sequences = ⟨.ok 0, sequences, (Cursor.next cursor).2, [.next]⟩ := by
  rw [takeRows, dif_neg ended]

/-- A row that cannot be laid over fresh elements ends the walk with its error and no more elements.
It is scanned unless the elements can take no row at all. -/
theorem takeRows_of_refused {cursor : κ} {sequences : List RowSequence} {error : Error}
    (moved : (Cursor.next cursor).1 = true)
    (failed : (Destination.receive (RowSequence.freshElements sequences)
      (Cursor.row (Cursor.next cursor).2)).1 = .error error) :
    takeRows cursor sequences =
      ⟨.error error, sequences, (Cursor.next cursor).2,
        .next :: if Destination.areFlat (RowSequence.freshElements sequences) then [.scan]
          else []⟩ := by
  -- Whatever the row has left in the elements goes with them.
  have restored : RowSequence.shrinkEach (RowSequence.pushEach sequences
      (Destination.receive (RowSequence.freshElements sequences)
        (Cursor.row (Cursor.next cursor).2)).2) = sequences :=
    RowSequence.shrinkEach_pushEach
      (by rw [Destination.length_receive, RowSequence.freshElements, List.length_map])
  rw [takeRows, dif_pos moved]
  simp only [RowSequence.newestElements_growEach, RowSequence.fillEach_growEach,
    RowSequence.shrinkEach_growEach]
  -- The elements fail to flatten, or they do and the row fails to be laid over them.
  split
  · rename_i refusal flattened
    have nested : Destination.areFlat (RowSequence.freshElements sequences) = false := by
      by_contra flat
      rw [Bool.not_eq_false] at flat
      simp [Destination.flatten_of_areFlat flat] at flattened
    simp only [Destination.receive, flattened, Except.error.injEq] at failed
    simp [nested, failed]
  · rename_i cells flattened
    have flat := Destination.areFlat_of_flatten flattened
    simp [failed, restored, flat]

/-- A row that is laid over fresh elements leaves them in the sequences, and the walk goes on. -/
theorem takeRows_of_received {cursor : κ} {sequences : List RowSequence}
    {filled : List Destination} (moved : (Cursor.next cursor).1 = true)
    (received : Destination.receive (RowSequence.freshElements sequences)
      (Cursor.row (Cursor.next cursor).2) = (.ok (), filled)) :
    takeRows cursor sequences =
      (takeRows (Cursor.next cursor).2 (RowSequence.pushEach sequences filled)).afterRow := by
  rw [takeRows, dif_pos moved]
  simp only [RowSequence.newestElements_growEach, RowSequence.fillEach_growEach, received]
  cases flattened : Destination.flatten (RowSequence.freshElements sequences) with
  | error error =>
    -- Elements that do not flatten receive nothing.
    simp [Destination.receive, flattened] at received
  | ok cells => rfl

/-- A row that is accepted is held by one more element of every sequence, and the walk goes on. -/
theorem takeRows_of_accepts {cursor : κ} {sequences : List RowSequence}
    (moved : (Cursor.next cursor).1 = true)
    (accepted : Destination.Accepts (RowSequence.freshElements sequences)
      (Cursor.row (Cursor.next cursor).2)) :
    ∃ batch, Destination.HoldRow (RowSequence.freshElements sequences)
        (Cursor.row (Cursor.next cursor).2) batch ∧
      takeRows cursor sequences =
        (takeRows (Cursor.next cursor).2 (RowSequence.pushEach sequences batch)).afterRow := by
  obtain ⟨batch, received, holds⟩ := Destination.receive_of_accepts accepted
  exact ⟨batch, holds, takeRows_of_received moved received⟩

/-- Taking up the rows of a cursor grows the sequences by them. A count is reported only if no row
was refused, and it is the number of elements that each sequence gained. -/
theorem takeRows_grows (cursor : κ) (sequences : List RowSequence) :
    ∃ batches, GrownBy sequences (Cursor.rowsToCome cursor) (takeRows cursor sequences).sequences
        batches ∧
      ∀ count, (takeRows cursor sequences).result = .ok count →
        count = batches.length ∧ batches.length = (Cursor.rowsToCome cursor).length := by
  -- The induction is on the rows to come, of which every step of the walk takes the first.
  induction rows : Cursor.rowsToCome cursor generalizing cursor sequences with
  | nil =>
    have ended := Cursor.rowsToCome_eq_nil_iff.mp rows
    rw [takeRows_of_ended sequences ended]
    exact ⟨[], .nil sequences, by simp⟩
  | cons row rows ih =>
    obtain ⟨moved, rfl, later⟩ := Cursor.rowsToCome_eq_cons_iff.mp rows
    by_cases accepted : Destination.Accepts (RowSequence.freshElements sequences)
        (Cursor.row (Cursor.next cursor).2)
    · obtain ⟨batch, holds, walk⟩ := takeRows_of_accepts moved accepted
      obtain ⟨batches, growth, counted⟩ := ih _ (RowSequence.pushEach sequences batch) later
      rw [walk]
      refine ⟨batch :: batches, growth.cons holds, ?_⟩
      intro count success
      simp only [Taken.afterRow] at success
      -- One more row is counted, and one more batch has been pushed.
      cases rest :
          (takeRows (Cursor.next cursor).2 (RowSequence.pushEach sequences batch)).result with
      | error error => simp [rest, Except.map] at success
      | ok fewer =>
        obtain ⟨sameCount, allRows⟩ := counted fewer rest
        simp only [rest, Except.map, Except.ok.injEq] at success
        simp only [List.length_cons]
        omega
    · -- The walk ends here, and the rows behind are not even fetched.
      obtain ⟨error, failed⟩ := Destination.receive_of_not_accepts accepted
      rw [takeRows_of_refused moved failed]
      exact ⟨[], .stop _ accepted, by simp⟩

end TakeRows

namespace Selection

variable {κ : Type} [Cursor κ]

/-- Closing the cursor changes neither the sequences nor how many rows were taken up. -/
theorem takeAndClose_sequences (cursor : κ) (sequences : List RowSequence) :
    (takeAndClose cursor sequences).sequences = (takeRows cursor sequences).sequences := by
  rw [takeAndClose]
  cases (takeRows cursor sequences).result <;> rfl

/-- A count reported after the cursor is closed was reported by the walk. -/
theorem takeRows_result_of_takeAndClose {cursor : κ} {sequences : List RowSequence} {count : Nat}
    (success : (takeAndClose cursor sequences).result = .ok count) :
    (takeRows cursor sequences).result = .ok count := by
  -- A failed walk stays failed, and the cursor's own error is no count.
  rw [takeAndClose] at success
  cases walked : (takeRows cursor sequences).result with
  | error error => simp [walked] at success
  | ok counted =>
    simp only [walked] at success
    cases ended : (Cursor.takeError (takeRows cursor sequences).cursor).1 with
    | error error => simp [ended, Except.map] at success
    | ok _ => simpa [ended, Except.map] using success

/-- The check of sequences looks at a fresh element of each. -/
theorem checkSequences_eq (selection : Selection) (sequences : List RowSequence) :
    selection.checkSequences sequences =
      if selection.options.checkWidth then
        selection.checkRecords (RowSequence.freshElements sequences)
      else .ok () := by
  rw [checkSequences, probe]
  split <;> simp

/-- Checking sequences leaves them as they were, whatever it tells. -/
theorem probe_eq (selection : Selection) (sequences : List RowSequence) :
    selection.probe sequences = (selection.checkSequences sequences, sequences) := by
  rw [checkSequences, probe]
  split <;> simp

/-- Checking destinations leaves them as they were, whether or not rows can go to them. -/
@[simp]
theorem accept_eq (selection : Selection) (destinations : List Destination) :
    selection.accept destinations = (selection.sequencesFor destinations, destinations) := by
  rw [sequencesFor, accept]
  -- Sequences that are recognised are the destinations themselves, and the probe changes none.
  cases recognised : RowSequence.ofDestinations destinations with
  | error error => rfl
  | ok sequences => simp only [probe_eq, RowSequence.eq_map_toDestination recognised]

/-- Rows can go to destinations that are all sequences and pass the check as such. -/
theorem sequencesFor_eq (selection : Selection) (destinations : List Destination) :
    selection.sequencesFor destinations =
      (RowSequence.ofDestinations destinations).bind fun sequences =>
        (selection.checkSequences sequences).map fun () => sequences := by
  rw [sequencesFor, accept]
  -- The probe comes second, and it gives the sequences back.
  cases RowSequence.ofDestinations destinations with
  | error error => rfl
  | ok sequences => simp only [probe_eq, Except.bind]

/-- A selection of all rows into sequences is rejected only by the check of their elements. -/
theorem sequencesFor_toDestination (selection : Selection) (sequences : List RowSequence) :
    selection.sequencesFor (sequences.map RowSequence.toDestination) =
      (selection.checkSequences sequences).map fun _ => sequences := by
  rw [sequencesFor_eq, RowSequence.ofDestinations_toDestination]
  rfl

/-- A rejected selection leaves its destinations alone and fails. -/
theorem all_of_rejected {selection : Selection} {destinations : List Destination} {error : Error}
    (connection : Connection κ) (rejected : selection.sequencesFor destinations = .error error) :
    selection.all connection destinations = { result := .error error, destinations } := by
  simp [all, rejected]

/-- A selection that is not rejected grows its sequences by the rows of its connection, and succeeds
only if every row was accepted. -/
theorem all_grows {selection : Selection} {sequences : List RowSequence}
    (connection : Connection κ) (checked : selection.checkSequences sequences = .ok ()) :
    ∃ after batches,
      GrownBy sequences (connection.rowsOf selection.toStatement) after batches ∧
      (selection.all connection (sequences.map RowSequence.toDestination)).destinations =
        after.map RowSequence.toDestination ∧
      ((selection.all connection (sequences.map RowSequence.toDestination)).result = .ok () →
        batches.length = (connection.rowsOf selection.toStatement).length) := by
  have accepted := sequencesFor_toDestination selection sequences
  rw [checked, Except.map] at accepted
  -- A statement that is not prepared or not run has no rows, and nothing is touched.
  cases prepared : connection.prepare selection.toStatement.sql with
  | error error =>
    rw [Connection.rowsOf_of_failed (.inl prepared)]
    exact ⟨sequences, [], .nil sequences, by simp [all, accepted, prepared], by simp⟩
  | ok statement =>
    cases queried : statement.allRows selection.toStatement.binds with
    | error error =>
      rw [Connection.rowsOf_of_failed (.inr ⟨statement, prepared, queried⟩)]
      exact ⟨sequences, [], .nil sequences, by simp [all, accepted, prepared, queried], by simp⟩
    | ok cursor =>
      have rows : connection.rowsOf selection.toStatement = Cursor.rowsToCome cursor := by
        simp [Connection.rowsOf, prepared, queried]
      obtain ⟨batches, growth, counted⟩ := takeRows_grows cursor sequences
      rw [← takeAndClose_sequences] at growth
      rw [rows]
      -- The destinations are those that the walk leaves, whether or not it is counted.
      cases taken : (takeAndClose cursor sequences).result with
      | error error =>
        exact ⟨_, batches, growth, by simp [all, accepted, prepared, queried, taken],
          by simp [all, accepted, prepared, queried, taken]⟩
      | ok count =>
        refine ⟨_, batches, growth, by simp [all, accepted, prepared, queried, taken], fun _ => ?_⟩
        exact (counted count (takeRows_result_of_takeAndClose taken)).2

/-- However a selection of all rows ends, its destinations have grown in step: each is what it was,
followed by the same number of new elements. That number is zero if nothing was sent or the query
failed, all rows if the selection succeeds, and otherwise the number of rows before the first that
fresh elements do not accept. The new elements of one row hold that row and nothing else. -/
theorem all_grows_in_step (selection : Selection) (connection : Connection κ)
    (sequences : List RowSequence) :
    let destinations := sequences.map RowSequence.toDestination
    let fetched := selection.all connection destinations
    let fresh := RowSequence.freshElements sequences
    let statement := selection.toStatement
    let rows := connection.rowsOf statement
    ∃ (count : Nat) (new : Fin count → Fin sequences.length → Destination),
      fetched.destinations = List.ofFn (fun j => .sequence sequences[j].element
        (sequences[j].rows ++ List.ofFn fun i => new i j)) ∧
      (∀ i : Fin count, ∃ row, rows[i]? = some row ∧
        Destination.HoldRow fresh row (List.ofFn (new i))) ∧
      (∀ error, (selection.sequencesFor destinations = .error error ∨
        connection.prepare statement.sql = .error error ∨
        ∃ prepared, connection.prepare statement.sql = .ok prepared ∧
          prepared.allRows statement.binds = .error error) → count = 0) ∧
      (∀ accepted, selection.sequencesFor destinations = .ok accepted →
        ∀ row, rows[count]? = some row → ¬ Destination.Accepts fresh row) ∧
      (fetched.result = .ok () → count = rows.length) := by
  intro destinations fetched fresh statement rows
  have requested := sequencesFor_toDestination selection sequences
  cases checked : selection.checkSequences sequences with
  | error error =>
    -- Nothing is sent, so that no destination gains anything.
    rw [checked, Except.map] at requested
    have rejected : fetched = { result := .error error, destinations } :=
      all_of_rejected connection requested
    refine ⟨0, fun i => i.elim0, ?_, fun i => i.elim0, fun _ _ => rfl, ?_, ?_⟩
    · rw [rejected]
      refine List.ext_getElem (by simp [destinations]) fun place _ _ => ?_
      simp [destinations, RowSequence.toDestination]
    · simp [destinations, requested]
    · simp [rejected]
  | ok _ =>
    rw [checked, Except.map] at requested
    -- From here on every end of the run leaves sequences grown by the rows of the connection.
    obtain ⟨after, batches, growth, grown, complete⟩ := all_grows connection checked
    obtain ⟨new, columns, elements⟩ := growth.exists_elements
    refine ⟨batches.length, new, by rw [← columns, ← grown], ?_, ?_, fun _ _ => growth.refused,
      complete⟩
    · intro i
      rw [← elements i]
      exact growth.holds i batches[i] (by simp)
    · intro error failed
      rcases failed with rejected | unanswered
      · simp [destinations, requested] at rejected
      · -- A connection that fails has no rows to grow by.
        rw [Connection.rowsOf_of_failed unanswered] at growth
        rw [growth.eq_nil, List.length_nil]

end Selection

end RowQuery
