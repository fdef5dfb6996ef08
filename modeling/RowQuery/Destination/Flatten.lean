import RowQuery.Destination.Basic

/-!
Destinations as the flat list of cells that a row is laid over. Records are expanded pass by pass,
which reports the shallowest sequence, and among those the leftmost.
-/

namespace RowQuery.Destination

mutual

/-- The cells of a destination, depth first; those inside a sequence do not take part. -/
def leaves : Destination → List Cell
  | .scalar cell => [cell]
  | .record _ fields => leavesOfAll fields
  | .sequence _ _ => []

/-- The cells of several destinations, one after the other. -/
def leavesOfAll : List Destination → List Cell
  | [] => []
  | destination :: rest => destination.leaves ++ leavesOfAll rest

end

mutual

/-- The number of records in a destination, itself included. -/
def recordCount : Destination → Nat
  | .record _ fields => recordCountOfAll fields + 1
  | _ => 0

/-- The number of records in several destinations. -/
def recordCountOfAll : List Destination → Nat
  | [] => 0
  | destination :: rest => destination.recordCount + recordCountOfAll rest

end

/-- The records of one list after another are those of both. -/
theorem recordCountOfAll_append (left right : List Destination) :
    recordCountOfAll (left ++ right) = recordCountOfAll left + recordCountOfAll right := by
  induction left with
  | nil => simp [recordCountOfAll]
  | cons destination rest ih => simp [recordCountOfAll, ih, Nat.add_assoc]

/-- The cells of destinations that are all scalar. -/
def scalarCells? : List Destination → Option (List Cell)
  | [] => some []
  | .scalar cell :: rest => (scalarCells? rest).map (cell :: ·)
  | _ :: _ => none

/-- One pass: every record gives way to its fields, and the first sequence is refused. -/
def expandOnce : List Destination → Except Error (List Destination)
  | [] => .ok []
  | .scalar cell :: rest => (expandOnce rest).map (.scalar cell :: ·)
  | .record _ fields :: rest => (expandOnce rest).map (fields ++ ·)
  -- A sequence inside a record is met by a later pass, and only if this one meets none.
  | .sequence element rows :: _ => .error (.unexpectedSequence (sequence element rows).kind)

/-- A pass that succeeds leaves a cell in front of it as it is and opens a record, whose fields then
come before what it makes of the rest. -/
theorem eq_append_of_expandOnce {destination : Destination} {rest expanded : List Destination}
    (pass : expandOnce (destination :: rest) = .ok expanded) :
    ∃ tail, expandOnce rest = .ok tail ∧
      ((∃ cell, destination = .scalar cell ∧ expanded = .scalar cell :: tail) ∨
        ∃ kind fields, destination = .record kind fields ∧ expanded = fields ++ tail) := by
  -- A pass over the rest is part of this one, so it has succeeded too.
  cases destination with
  | scalar cell =>
    cases later : expandOnce rest with
    | error error => simp [expandOnce, later, Except.map] at pass
    | ok tail =>
      simp only [expandOnce, later, Except.map, Except.ok.injEq] at pass
      exact ⟨tail, rfl, .inl ⟨cell, rfl, pass.symm⟩⟩
  | record kind fields =>
    cases later : expandOnce rest with
    | error error => simp [expandOnce, later, Except.map] at pass
    | ok tail =>
      simp only [expandOnce, later, Except.map, Except.ok.injEq] at pass
      exact ⟨tail, rfl, .inr ⟨kind, fields, rfl, pass.symm⟩⟩
  | sequence element rows => simp [expandOnce] at pass

/-- A pass that is refused has met a sequence in front of it, or it is refused by the rest. -/
theorem expandOnce_eq_error_cases {destination : Destination} {rest : List Destination}
    {error : Error} (refused : expandOnce (destination :: rest) = .error error) :
    (destination.isSequence = true ∧ error = .unexpectedSequence destination.kind) ∨
      destination.isSequence = false ∧ expandOnce rest = .error error := by
  -- Only a sequence is refused itself; in front of it a pass goes on to the rest.
  cases destination with
  | sequence element rows => exact .inl ⟨rfl, (Except.error.inj refused).symm⟩
  | scalar cell =>
    cases later : expandOnce rest with
    | error own => exact .inr ⟨rfl, by simpa [expandOnce, later, Except.map] using refused⟩
    | ok tail => simp [expandOnce, later, Except.map] at refused
  | record kind fields =>
    cases later : expandOnce rest with
    | error own => exact .inr ⟨rfl, by simpa [expandOnce, later, Except.map] using refused⟩
    | ok tail => simp [expandOnce, later, Except.map] at refused

/-- A pass loses the records it opens, and there is one unless all destinations are scalar. -/
theorem recordCountOfAll_expandOnce {destinations expanded : List Destination}
    (pass : expandOnce destinations = .ok expanded) :
    recordCountOfAll expanded ≤ recordCountOfAll destinations ∧
      (scalarCells? destinations = none →
        recordCountOfAll expanded < recordCountOfAll destinations) := by
  induction destinations generalizing expanded with
  | nil =>
    simp only [expandOnce, Except.ok.injEq] at pass
    subst pass
    simp [scalarCells?]
  | cons destination rest ih =>
    obtain ⟨tail, later, ⟨cell, rfl, rfl⟩ | ⟨kind, fields, rfl, rfl⟩⟩ :=
      eq_append_of_expandOnce pass
    · simpa [recordCountOfAll, recordCount, scalarCells?] using ih later
    · -- The record itself is gone, and its fields are counted as before.
      have fewer := (ih later).1
      simp only [recordCountOfAll, recordCount, recordCountOfAll_append]
      omega

/-- The cells that a row is laid over, in the order of their declaration. -/
def flatten (destinations : List Destination) : Except Error (List Cell) :=
  match _ : scalarCells? destinations with
  | some cells => .ok cells
  | none =>
    -- Passes go on until there is nothing left to open, so a level is finished before the next.
    match _ : expandOnce destinations with
    | .error error => .error error
    | .ok expanded => flatten expanded
termination_by recordCountOfAll destinations
decreasing_by exact (recordCountOfAll_expandOnce (by assumption)).2 (by assumption)

/-- The number of cells that a row is laid over. -/
def width (destinations : List Destination) : Except Error Nat :=
  (flatten destinations).map List.length

mutual

/-- Puts cells into the places of a destination's own, depth first, and returns the rest of them. -/
def refill : Destination → List Cell → Destination × List Cell
  | .scalar _, cell :: cells => (.scalar cell, cells)
  | .scalar cell, [] => (.scalar cell, [])
  | .record kind fields, cells =>
    let (fields, cells) := refillEach fields cells
    (.record kind fields, cells)
  -- A sequence takes none of the cells and hands them all on.
  | .sequence element rows, cells => (.sequence element rows, cells)

/-- Puts cells into the places of several destinations, one after the other. -/
def refillEach : List Destination → List Cell → List Destination × List Cell
  | [], cells => ([], cells)
  | destination :: rest, cells =>
    let (destination, cells) := destination.refill cells
    let (rest, cells) := refillEach rest cells
    (destination :: rest, cells)

end

/-- The destinations with the given cells in place of their own. -/
def withCells (destinations : List Destination) (cells : List Cell) : List Destination :=
  (refillEach destinations cells).1

end RowQuery.Destination
