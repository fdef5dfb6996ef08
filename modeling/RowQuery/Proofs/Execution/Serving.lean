import RowQuery.Connection.Memory
import RowQuery.Proofs.Execution.Answers

/-!
Connections that serve the same rows with the same ending. A selection cannot tell them apart but
for the words in which they say that there is no row, and a connection in memory can serve any rows.
-/

namespace RowQuery

/-- What a query for the first row may answer where a delivery is there for all rows: the first row,
or else the error in place of rows, or else the complaint, in any words, that there is no row. -/
inductive Delivery.Begins (delivery : Delivery) : Except Error (List Value) → Prop where
  | row {row : Except Error (List Value)} {rows : List (Except Error (List Value))} :
    delivery.rows = row :: rows → Begins delivery row
  | failed {error : Error} :
    delivery.rows = [] → delivery.ending = .error error → Begins delivery (.error error)
  | absent {reason : String} :
    delivery.rows = [] → delivery.ending = .ok () → Begins delivery (.error (.notFound reason))

/-- A connection serves a delivery to those who run a statement. -/
structure Connection.Serves {κ : Type} [Cursor κ] (connection : Connection κ)
    (statement : Statement) (delivery : Delivery) : Prop where
  allRows : connection.deliveryOf statement = .ok delivery
  firstRow : delivery.Begins (connection.firstRowOf statement)

/-- Results that differ at most in the words in which they say that there is no row. -/
inductive SameButWords {α : Type} : Except Error α → Except Error α → Prop where
  | same (result : Except Error α) : SameButWords result result
  | absent (reason reason' : String) :
    SameButWords (.error (.notFound reason)) (.error (.notFound reason'))

/-- If there is a first row, it is the answer. -/
theorem Delivery.Begins.eq_of_rows {delivery : Delivery} {answer row : Except Error (List Value)}
    {rows : List (Except Error (List Value))} (begins : delivery.Begins answer)
    (first : delivery.rows = row :: rows) : answer = row := by
  -- Anything else begins a delivery only if it has no rows.
  rcases begins with found | ⟨empty, _⟩ | ⟨empty, _⟩
  · rw [found, List.cons.injEq] at first
    exact first.1
  · simp [first] at empty
  · simp [first] at empty

/-- Two answers to a query for the first row of one delivery differ at most in words. -/
theorem Delivery.Begins.sameButWords {delivery : Delivery} {left right : Except Error (List Value)}
    (begins : delivery.Begins left) (begins' : delivery.Begins right) :
    SameButWords left right := by
  -- There is a first row on both sides or on neither, and then the ending is the same.
  rcases begins with first | ⟨empty, failed⟩ | ⟨empty, ended⟩ <;>
    rcases begins' with first' | ⟨empty', failed'⟩ | ⟨empty', ended'⟩
  · rw [first, List.cons.injEq] at first'
    rw [first'.1]
    exact .same _
  · simp [first] at empty'
  · simp [first] at empty'
  · simp [first'] at empty
  · rw [failed, Except.error.injEq] at failed'
    rw [failed']
    exact .same _
  · simp [failed] at ended'
  · simp [first'] at empty
  · simp [ended] at failed'
  · exact .absent _ _

/-- Rows that fresh elements accept are all taken up, and those behind them from there. -/
theorem Delivery.takeUp_of_accepts {rows : List (Except Error (List Value))}
    {sequences : List RowSequence}
    (accepted : ∀ row ∈ rows, Destination.Accepts (RowSequence.freshElements sequences) row)
    (behind : List (Except Error (List Value))) (ending : Except Error Unit) :
    ∃ after batches, GrownBy sequences rows after batches ∧ batches.length = rows.length ∧
      RowSequence.freshElements after = RowSequence.freshElements sequences ∧
      (⟨rows ++ behind, ending⟩ : Delivery).takeUp sequences =
        (((⟨behind, ending⟩ : Delivery).takeUp after).1.map (· + rows.length),
          ((⟨behind, ending⟩ : Delivery).takeUp after).2) := by
  -- The induction is on the rows in front; each makes the sequences that the next ones start from.
  induction rows generalizing sequences with
  | nil =>
    refine ⟨sequences, [], .nil sequences, rfl, rfl, ?_⟩
    rw [List.nil_append]
    cases (⟨behind, ending⟩ : Delivery).takeUp sequences with
    | mk result grown => cases result <;> rfl
  | cons row rows ih =>
    obtain ⟨batch, received, holds⟩ := Destination.receive_of_accepts (accepted row (by simp))
    have fresh : RowSequence.freshElements (RowSequence.pushEach sequences batch) =
        RowSequence.freshElements sequences :=
      RowSequence.freshElements_pushEach (GrownBy.length_of_holdRow holds)
    -- One more element of each sequence does not change what the rows behind are laid over.
    have others : ∀ later ∈ rows, Destination.Accepts
        (RowSequence.freshElements (RowSequence.pushEach sequences batch)) later := by
      intro later member
      rw [fresh]
      exact accepted later (List.mem_cons_of_mem _ member)
    obtain ⟨after, batches, growth, counted, same, taken⟩ := ih others
    refine ⟨after, batch :: batches, growth.cons holds, by simp [counted], same.trans fresh, ?_⟩
    rw [List.cons_append, takeUp_cons, received]
    simp only [taken]
    -- What is counted behind is one more with this row, if it is counted at all.
    cases ((⟨behind, ending⟩ : Delivery).takeUp after).1 with
    | error error => rfl
    | ok count => simp [Except.map, Nat.add_assoc]

namespace Selection

/-- Where rows that fresh elements accept are served in front of others, a selection of all rows
takes them up, and the others from there. -/
theorem all_of_accepted_rows {κ : Type} [Cursor κ] {connection : Connection κ}
    {selection : Selection} {sequences : List RowSequence}
    (checked : selection.checkSequences sequences = .ok ())
    {rows behind : List (Except Error (List Value))} {ending : Except Error Unit}
    (serves : connection.Serves selection.toStatement ⟨rows ++ behind, ending⟩)
    (accepted : ∀ row ∈ rows, Destination.Accepts (RowSequence.freshElements sequences) row) :
    ∃ after batches, GrownBy sequences rows after batches ∧ batches.length = rows.length ∧
      RowSequence.freshElements after = RowSequence.freshElements sequences ∧
      let fetched := selection.all connection (sequences.map RowSequence.toDestination)
      let taken := (⟨behind, ending⟩ : Delivery).takeUp after
      fetched.result = taken.1.map (fun _ => ()) ∧
        fetched.destinations = taken.2.map RowSequence.toDestination := by
  obtain ⟨after, batches, growth, counted, same, taken⟩ :=
    Delivery.takeUp_of_accepts accepted behind ending
  refine ⟨after, batches, growth, counted, same, ?_⟩
  -- The destinations pass the check as the sequences that they are.
  have outcome := selection.outcome_all connection (sequences.map RowSequence.toDestination)
  have passed := sequencesFor_toDestination selection sequences
  rw [checked, Except.map] at passed
  simp only [serves.allRows, allOutcome, passed, taken] at outcome
  refine ⟨?_, congrArg Outcome.destinations outcome⟩
  -- The rows in front add to the count, which the result leaves out.
  have result := congrArg Outcome.result outcome
  simp only [Fetched.outcome] at result
  rw [result]
  cases ((⟨behind, ending⟩ : Delivery).takeUp after).1 <;> rfl

section Alike

variable {κ ι : Type} {left : Connection κ} {right : Connection ι} {selection : Selection}

/-- A selection of the first row has the same outcome wherever its query is answered alike, but for
the words that say that there is no row. -/
theorem outcome_first_of_answers
    (alike : SameButWords (left.firstRowOf selection.toStatement)
      (right.firstRowOf selection.toStatement))
    (destinations : List Destination) :
    SameButWords (selection.first left destinations).result
        (selection.first right destinations).result ∧
      (selection.first left destinations).events = (selection.first right destinations).events ∧
      (selection.first left destinations).destinations =
        (selection.first right destinations).destinations := by
  have outcome := selection.outcome_first left destinations
  have outcome' := selection.outcome_first right destinations
  -- Only the two answers are left of the two connections.
  generalize left.firstRowOf selection.toStatement = answer at alike outcome
  generalize right.firstRowOf selection.toStatement = answer' at alike outcome'
  show SameButWords (selection.first left destinations).outcome.result
      (selection.first right destinations).outcome.result ∧
    (selection.first left destinations).outcome.events =
      (selection.first right destinations).outcome.events ∧
    (selection.first left destinations).outcome.destinations =
      (selection.first right destinations).outcome.destinations
  rw [outcome, outcome']
  cases alike with
  | same => exact ⟨.same _, rfl, rfl⟩
  | absent reason reason' =>
    -- Without a row nothing is laid over the destinations, and the complaint is the result.
    unfold firstOutcome
    cases checked : selection.checkRecords destinations with
    | error error => exact ⟨.same _, rfl, rfl⟩
    | ok _ =>
      have flattened := Destination.flatten_of_areFlat (areFlat_of_checkRecords checked)
      refine ⟨?_, ?_⟩ <;> simp only [Destination.receive, flattened, and_self]
      exact .absent _ _

/-- A selection of all rows has the same outcome wherever the same is served. -/
theorem outcome_all_of_serves [Cursor κ] [Cursor ι] {delivery : Delivery}
    (serves : left.Serves selection.toStatement delivery)
    (serves' : right.Serves selection.toStatement delivery) (destinations : List Destination) :
    (selection.all left destinations).outcome = (selection.all right destinations).outcome := by
  rw [outcome_all, outcome_all, serves.allRows, serves'.allRows]

end Alike

end Selection

namespace Memory

/-- Rows in memory with a given ending. A failure comes behind the last of them, and it stands for
the first row if there is none. -/
def serving (rows : List (List Value)) : Except Error Unit → Memory
  | .ok () => { rows }
  | .error error =>
    { rows, failure := some (rows.length, error),
      rowError := if rows = [] then some error else none }

/-- A cursor whose failure lies behind its rows delivers these rows and then the failure. -/
theorem delivery_of_failure (rows : Rows) (error : Error) (isOpen : rows.isClosed = false)
    (last : rows.failure = some (rows.moves + rows.pending.length, error)) :
    Cursor.delivery rows = ⟨rows.pending.map .ok, .error error⟩ := by
  -- The moves already made and the rows to come always add up to the place of the failure.
  induction pending : rows.pending generalizing rows with
  | nil =>
    -- The next move is the one that fails.
    have now : rows.failureNow? = some error := by simp [Rows.failureNow?, last, pending]
    have next : Cursor.next rows = (false, { rows with current := none, error := some error }) := by
      simp [Cursor.next, Rows.next, isOpen, now]
    rw [Cursor.delivery_of_ended (by simp [next]), next]
    rfl
  | cons values behind ih =>
    have later : rows.failureNow? = none := by simp [Rows.failureNow?, last, pending]
    have next : Cursor.next rows =
        (true, { rows with
          pending := behind, current := some values, moves := rows.moves + 1 }) := by
      simp [Cursor.next, Rows.next, isOpen, later, pending]
    have rest := ih { rows with
        pending := behind, current := some values, moves := rows.moves + 1 } isOpen
      (by simp [last, pending, Nat.add_comm, Nat.add_left_comm]) rfl
    rw [Cursor.delivery_of_moved (by simp [next]), next, rest]
    rfl

/-- A cursor without a failure delivers its rows and then nothing. -/
theorem delivery_of_no_failure (rows : Rows) (isOpen : rows.isClosed = false)
    (never : rows.failure = none) (clear : rows.error = none) :
    Cursor.delivery rows = ⟨rows.pending.map .ok, .ok ()⟩ := by
  -- The induction is on the rows to come. No move changes what the cursor knows about failures.
  induction pending : rows.pending generalizing rows with
  | nil =>
    have next : Cursor.next rows =
        (false, { rows with current := none, moves := rows.moves + 1 }) := by
      simp [Cursor.next, Rows.next, isOpen, Rows.failureNow?, never, pending]
    rw [Cursor.delivery_of_ended (by simp [next]), next]
    simp [Cursor.takeError, Rows.takeError, clear]
  | cons values behind ih =>
    have next : Cursor.next rows =
        (true, { rows with
          pending := behind, current := some values, moves := rows.moves + 1 }) := by
      simp [Cursor.next, Rows.next, isOpen, Rows.failureNow?, never, pending]
    have rest := ih { rows with
        pending := behind, current := some values, moves := rows.moves + 1 } isOpen never clear rfl
    rw [Cursor.delivery_of_moved (by simp [next]), next, rest]
    rfl

/-- Rows in memory are served with their ending, whatever is asked. -/
theorem serves_serving (rows : List (List Value)) (ending : Except Error Unit)
    (statement : Statement) :
    (serving rows ending).connection.Serves statement ⟨rows.map .ok, ending⟩ := by
  cases ending with
  | ok _ =>
    constructor
    · -- All rows are asked for.
      have delivered := delivery_of_no_failure { pending := rows } rfl rfl rfl
      simp [Connection.deliveryOf, connection, serving, allRows, Except.bind, Except.map, delivered]
    · -- The first row is asked for, and there may be none.
      cases rows with
      | nil => exact .absent rfl rfl
      | cons values behind => exact .row rfl
  | error error =>
    constructor
    · have delivered := delivery_of_failure
        { pending := rows, failure := some (rows.length, error) } error rfl (by simp)
      simp [Connection.deliveryOf, connection, serving, allRows, Except.bind, Except.map, delivered]
    · -- Without a row the failure stands for it.
      cases rows with
      | nil => exact .failed rfl rfl
      | cons values behind => exact .row rfl

end Memory

end RowQuery
