import RowQuery.Proofs.Execution.Preflight

/-!
What a selection of the first row leaves behind. Unless there is a row with a value for every leaf,
all destinations are what they were; with one, its values are taken over up to the first that does
not fit. Nothing depends on the rows behind the first.
-/

namespace RowQuery

open Destination

/-- Destinations with values laid over their leaves up to a position. The leaves before it hold
their values, those from it on hold what they held, and nothing but contents has changed. -/
structure Destination.HeldUpTo (before after : List Destination) (values : List Value)
    (position : Nat) : Prop where
  kept : blankAll after = blankAll before
  holds : List.Forall₂ Cell.Holds ((leavesOfAll after).take position) (values.take position)
  others : (leavesOfAll after).drop position = (leavesOfAll before).drop position

section Receive

variable {destinations : List Destination} {values : List Value}

/-- A row of another length changes nothing. -/
theorem Destination.receive_snd_of_misaligned (flat : areFlat destinations = true)
    (misaligned : values.length ≠ (leavesOfAll destinations).length) :
    (receive destinations (.ok values)).2 = destinations := by
  simp only [receive, flatten_of_areFlat flat, Cell.assignAll, if_neg (Ne.symm misaligned),
    withCells_leavesOfAll]

/-- A row is held up to its first value that does not fit. -/
theorem Destination.heldUpTo_of_firstUnfit (flat : areFlat destinations = true)
    (aligned : values.length = (leavesOfAll destinations).length) {position : Nat}
    {mismatch : TypeMismatch}
    (unfit : Cell.FirstUnfit (leavesOfAll destinations) values position mismatch) :
    HeldUpTo destinations (receive destinations (.ok values)).2 values position := by
  obtain ⟨-, leaves, kept⟩ := receive_of_areFlat flat values
  obtain ⟨assigned, types, holds, walk⟩ := Cell.assignFrom_of_firstUnfit 0 unfit
  rw [Cell.assignAll_of_aligned aligned, walk] at leaves
  -- As many cells are assigned as there are in front of the position.
  have inside : position < values.length := by
    obtain ⟨_, _, _, given, _⟩ := unfit.refused
    exact (List.getElem?_eq_some_iff.mp given).1
  have length : assigned.length = position := by
    rw [holds.length_eq, List.length_take]
    omega
  refine ⟨kept, ?_, ?_⟩
  · rw [leaves, List.take_left' length]
    exact holds
  · rw [leaves, List.drop_left' length]

/-- A row whose values all fit is held as a whole. -/
theorem Destination.receive_of_fits (flat : areFlat destinations = true)
    (fits : List.Forall₂ Cell.Fits (leavesOfAll destinations) values) :
    (receive destinations (.ok values)).1 = .ok () ∧
      List.Forall₂ Cell.Holds (leavesOfAll (receive destinations (.ok values)).2) values ∧
      blankAll (receive destinations (.ok values)).2 = blankAll destinations := by
  -- Laying a row over destinations is assigning it to their leaves.
  obtain ⟨result, leaves, kept⟩ := receive_of_areFlat flat values
  obtain ⟨assigned, walk, -, holds⟩ := Cell.assignFrom_of_fits 0 fits
  rw [Cell.assignAll_of_aligned fits.length_eq.symm, walk] at result leaves
  exact ⟨result, leaves ▸ holds, kept⟩

end Receive

/-- How a selection of the first row ends, given the connection's answer: its result, and the
destinations afterwards. -/
inductive FirstEnds (selection : Selection) (destinations : List Destination) :
    Except Error (List Value) → Except Error Unit → List Destination → Prop where
  /-- The destinations are rejected for a sequence or for their width, whatever the answer were. -/
  | rejected {answer : Except Error (List Value)} {error : Error} :
    selection.RejectsRecords destinations error →
    FirstEnds selection destinations answer (.error error) destinations
  /-- The statement is not prepared, the query fails, or there is no row. -/
  | unanswered {error : Error} :
    selection.checkRecords destinations = .ok () →
    FirstEnds selection destinations (.error error) (.error error) destinations
  /-- The row is too long or too short. -/
  | misaligned {values : List Value} :
    selection.checkRecords destinations = .ok () →
    values.length ≠ (leavesOfAll destinations).length →
    FirstEnds selection destinations (.ok values)
      (.error (.ofLengths values.length (leavesOfAll destinations).length)) destinations
  /-- One of its values is the first that does not fit its leaf. -/
  | unfit {values : List Value} {position : Nat} {mismatch : TypeMismatch}
    {after : List Destination} :
    selection.checkRecords destinations = .ok () →
    values.length = (leavesOfAll destinations).length →
    Cell.FirstUnfit (leavesOfAll destinations) values position mismatch →
    HeldUpTo destinations after values position →
    FirstEnds selection destinations (.ok values)
      (.error (.decode (toString position) (Error.typeMismatch mismatch).message)) after
  /-- Every leaf holds its value, and nothing but contents has changed. -/
  | held {values : List Value} {after : List Destination} :
    selection.checkRecords destinations = .ok () →
    List.Forall₂ Cell.Holds (leavesOfAll after) values →
    blankAll after = blankAll destinations →
    FirstEnds selection destinations (.ok values) (.ok ()) after

/-- However a selection of the first row ends, it changes nothing but contents. -/
theorem FirstEnds.blankAll_eq {selection : Selection} {destinations after : List Destination}
    {answer : Except Error (List Value)} {result : Except Error Unit}
    (ends : FirstEnds selection destinations answer result after) :
    blankAll after = blankAll destinations := by
  -- The leaves are assigned in two cases alone, which say so of themselves.
  cases ends with
  | rejected _ => rfl
  | unanswered _ => rfl
  | misaligned _ _ => rfl
  | unfit _ _ _ held => exact held.kept
  | held _ _ kept => exact kept

namespace Selection

/-- The outcome of a selection of the first row is one of these ends. -/
theorem firstOutcome_ends (selection : Selection) (answer : Except Error (List Value))
    (destinations : List Destination) :
    FirstEnds selection destinations answer
      (selection.firstOutcome answer destinations).result
      (selection.firstOutcome answer destinations).destinations := by
  cases checked : selection.checkRecords destinations with
  | error error =>
    simp only [firstOutcome, checked]
    exact .rejected (checkRecords_eq_error_iff.mp checked)
  | ok _ =>
    have flat := areFlat_of_checkRecords checked
    simp only [firstOutcome, checked]
    cases answer with
    | error error =>
      simp only [receive, flatten_of_areFlat flat]
      exact .unanswered checked
    | ok values =>
      by_cases aligned : values.length = (leavesOfAll destinations).length
      · by_cases fits : List.Forall₂ Cell.Fits (leavesOfAll destinations) values
        · obtain ⟨result, holds, kept⟩ := receive_of_fits flat fits
          rw [result]
          exact .held checked holds kept
        · -- The first value that does not fit ends the transfer.
          obtain ⟨position, mismatch, unfit⟩ := Cell.exists_firstUnfit aligned.symm fits
          rw [receive_of_refuses flat (.value aligned unfit)]
          exact .unfit checked aligned unfit (heldUpTo_of_firstUnfit flat aligned unfit)
      · rw [receive_of_refuses flat (.length aligned), receive_snd_of_misaligned flat aligned]
        exact .misaligned checked aligned

/-- A selection of the first row ends as the connection's answer makes it. -/
theorem first_ends {κ : Type} (selection : Selection) (connection : Connection κ)
    (destinations : List Destination) :
    FirstEnds selection destinations (connection.firstRowOf selection.toStatement)
      (selection.first connection destinations).result
      (selection.first connection destinations).destinations := by
  -- The outcome of the call is what is made of the answer.
  have ends := selection.firstOutcome_ends (connection.firstRowOf selection.toStatement)
    destinations
  rw [← selection.outcome_first connection destinations] at ends
  exact ends

end Selection

/-- Deliveries with the same first row are begun alike by all connections that serve them. -/
theorem Connection.Serves.firstRowOf_eq {κ ι : Type} [Cursor κ] [Cursor ι] {left : Connection κ}
    {right : Connection ι} {statement : Statement} {delivery delivery' : Delivery}
    (serves : left.Serves statement delivery) (serves' : right.Serves statement delivery')
    {row : Except Error (List Value)} (first : delivery.rows.head? = some row)
    (first' : delivery'.rows.head? = some row) :
    left.firstRowOf statement = right.firstRowOf statement := by
  obtain ⟨rows, split⟩ := List.head?_eq_some_iff.mp first
  obtain ⟨rows', split'⟩ := List.head?_eq_some_iff.mp first'
  rw [serves.firstRow.eq_of_rows split, serves'.firstRow.eq_of_rows split']

/-- What a selection of the first row does. If it is rejected or not answered with a row, or the row
has another length, all destinations are what they were. Otherwise the leaves hold the values of the
row up to the first that does not fit, and if all of them fit, all leaves do. No sequence ever
grows. The outcome is the same for every connection that gives the same answer, and so for any two
that serve the same first row, whatever comes behind it. Where both serve no row and the same
ending, it is the same but for the words that say that there is none. -/
theorem first_row_decides {κ : Type} (connection : Connection κ) (selection : Selection)
    (destinations : List Destination) :
    let first := selection.first connection destinations
    let statement := selection.toStatement
    FirstEnds selection destinations (connection.firstRowOf statement) first.result
      first.destinations ∧
    blankAll first.destinations = blankAll destinations ∧
    ∀ (ι : Type) (other : Connection ι),
      (other.firstRowOf statement = connection.firstRowOf statement →
        (selection.first other destinations).outcome = first.outcome) ∧
      ∀ [Cursor κ] [Cursor ι] (delivery delivery' : Delivery),
        connection.Serves statement delivery → other.Serves statement delivery' →
        (∀ row, delivery.rows.head? = some row → delivery'.rows.head? = some row →
          (selection.first other destinations).outcome = first.outcome) ∧
        (delivery.rows = [] → delivery'.rows = [] → delivery.ending = delivery'.ending →
          SameButWords first.result (selection.first other destinations).result ∧
          first.destinations = (selection.first other destinations).destinations) := by
  intro first statement
  have ends := selection.first_ends connection destinations
  refine ⟨ends, ends.blankAll_eq, fun ι other => ?_⟩
  -- The connection enters only by its answer, so equal answers give equal outcomes.
  have alike : other.firstRowOf statement = connection.firstRowOf statement →
      (selection.first other destinations).outcome = first.outcome := by
    intro same
    rw [Selection.outcome_first, same, ← Selection.outcome_first]
  refine ⟨alike, fun delivery delivery' serves serves' => ⟨?_, ?_⟩⟩
  · intro row found found'
    exact alike (serves'.firstRowOf_eq serves found' found)
  · intro none none' ending
    -- Without rows, what is served is known by its ending.
    obtain rfl : delivery = delivery' := by
      obtain ⟨rows, told⟩ := delivery
      obtain ⟨rows', told'⟩ := delivery'
      simp only at none none' ending
      rw [none, none', ending]
    have words := serves.firstRow.sameButWords serves'.firstRow
    obtain ⟨result, -, kept⟩ := Selection.outcome_first_of_answers words destinations
    exact ⟨result, kept⟩

/-- Two tables with the same first row cannot be told apart by it, whatever row is behind it in one
of them. -/
theorem first_row_decides_in_memory :
    let row : List Value := [.int 1, .null]
    let rows : List (List Value) := [row, [.int 2, .text "bob"]]
    let left := (Memory.serving [row] (.ok ())).connection
    let right := (Memory.serving rows (.error (.query "lost"))).connection
    let selection : Selection := ⟨[⟨"users", "id"⟩, ⟨"users", "name"⟩], [], [], {}⟩
    let destinations : List Destination := [.tuple [.int64, .text]]
    left.Serves selection.toStatement ⟨[.ok row], .ok ()⟩ ∧
      right.Serves selection.toStatement ⟨rows.map .ok, .error (.query "lost")⟩ ∧
      (selection.first right destinations).outcome =
        (selection.first left destinations).outcome := by
  intro row rows left right selection destinations
  -- Both tables serve their rows for any statement, whatever ending is behind them.
  have serves := Memory.serves_serving [row] (.ok ()) selection.toStatement
  have serves' := Memory.serves_serving rows (.error (.query "lost")) selection.toStatement
  obtain ⟨-, -, alike⟩ := first_row_decides left selection destinations
  exact ⟨serves, serves', ((alike _ right).2 _ _ serves serves').1 (.ok row) rfl rfl⟩

end RowQuery
