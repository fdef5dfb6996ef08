import Mathlib.Data.List.Forall2
import RowQuery.Destination.Assign
import RowQuery.Proofs.Destination.Cells

/-! Rows laid over destinations: which rows fit, and what the destinations hold afterwards. -/

namespace RowQuery

namespace Cell

/-- A value fits a cell if it can be converted to the cell's type. -/
def Fits (cell : Cell) (value : Value) : Prop :=
  ∃ content, cell.type.ofValue value = .ok content

/-- A cell holds a value if the value converted to the cell's type is its content. -/
def Holds (cell : Cell) (value : Value) : Prop :=
  cell.type.ofValue value = .ok cell.content

/-- A value that fits is assigned: the cell keeps its type and holds the value. -/
theorem assign_of_fits {cell : Cell} {value : Value} (fits : cell.Fits value) :
    ∃ assigned, cell.assign value = .ok assigned ∧ assigned.type = cell.type ∧
      assigned.Holds value := by
  obtain ⟨content, converted⟩ := fits
  exact ⟨⟨cell.type, content⟩, by simp [assign, converted, Except.map], rfl, converted⟩

/-- Values that fit are assigned to the cells in front, and the walk goes on behind them. -/
theorem assignFrom_append_of_fits (position : Nat) {before : List Cell} {given : List Value}
    (fits : List.Forall₂ Fits before given) (cells : List Cell) (values : List Value) :
    ∃ assigned, assigned.map type = before.map type ∧ List.Forall₂ Holds assigned given ∧
      assignFrom position (before ++ cells) (given ++ values) =
        ((assignFrom (position + given.length) cells values).1,
          assigned ++ (assignFrom (position + given.length) cells values).2) := by
  -- The position only serves the error, so it is left open.
  induction fits generalizing position with
  | nil => exact ⟨[], rfl, .nil, rfl⟩
  | @cons _ _ _ given first _ ih =>
    obtain ⟨cell, stored, sameType, holds⟩ := assign_of_fits first
    obtain ⟨rest, sameTypes, restHold, later⟩ := ih (position + 1)
    have behind : position + 1 + given.length = position + (given.length + 1) := by omega
    refine ⟨cell :: rest, by simp [sameType, sameTypes], .cons holds restHold, ?_⟩
    simp [assignFrom, stored, later, behind]

/-- Values that all fit are all assigned. -/
theorem assignFrom_of_fits (position : Nat) {cells : List Cell} {values : List Value}
    (fits : List.Forall₂ Fits cells values) :
    ∃ assigned, assignFrom position cells values = (.ok (), assigned) ∧
      assigned.map type = cells.map type ∧ List.Forall₂ Holds assigned values := by
  obtain ⟨assigned, types, holds, walk⟩ := assignFrom_append_of_fits position fits [] []
  exact ⟨assigned, by simpa [assignFrom] using walk, types, holds⟩

/-- A position is the first whose value does not fit its cell. -/
structure FirstUnfit (cells : List Cell) (values : List Value) (position : Nat)
    (mismatch : TypeMismatch) : Prop where
  /-- All values before it fit. -/
  fits : List.Forall₂ Fits (cells.take position) (values.take position)
  /-- Its own value is refused. -/
  refused : ∃ cell value, cells[position]? = some cell ∧ values[position]? = some value ∧
    cell.type.ofValue value = .error mismatch

/-- Unless all values fit, there is a first that does not. -/
theorem exists_firstUnfit {cells : List Cell} {values : List Value}
    (aligned : cells.length = values.length) (unfit : ¬ List.Forall₂ Fits cells values) :
    ∃ position mismatch, FirstUnfit cells values position mismatch := by
  induction cells generalizing values with
  | nil =>
    obtain rfl : values = [] := List.eq_nil_of_length_eq_zero aligned.symm
    exact absurd .nil unfit
  | cons cell cells ih =>
    cases values with
    | nil => simp at aligned
    | cons value values =>
      cases converted : cell.type.ofValue value with
      | error mismatch => exact ⟨0, mismatch, .nil, cell, value, rfl, rfl, converted⟩
      | ok content =>
        -- The first value fits, so the first that does not is behind it.
        have first : cell.Fits value := ⟨content, converted⟩
        obtain ⟨position, mismatch, fits, refused⟩ := ih (by simpa using aligned)
          fun fits => unfit (.cons first fits)
        exact ⟨position + 1, mismatch, .cons first fits, refused⟩

/-- A first value that does not fit ends the walk. The cells before it are assigned, and it and
those behind stay as they are. -/
theorem assignFrom_of_firstUnfit (start : Nat) {cells : List Cell} {values : List Value}
    {position : Nat} {mismatch : TypeMismatch}
    (unfit : FirstUnfit cells values position mismatch) :
    ∃ assigned, assigned.map type = (cells.take position).map type ∧
      List.Forall₂ Holds assigned (values.take position) ∧
      assignFrom start cells values =
        (.error (.decode (toString (start + position)) (Error.typeMismatch mismatch).message),
          assigned ++ cells.drop position) := by
  obtain ⟨cell, value, found, given, failed⟩ := unfit.refused
  obtain ⟨inside, rfl⟩ := List.getElem?_eq_some_iff.mp found
  obtain ⟨within, rfl⟩ := List.getElem?_eq_some_iff.mp given
  -- The values in front all fit, so the walk reaches the position with them assigned.
  obtain ⟨assigned, types, holds, walk⟩ := assignFrom_append_of_fits start unfit.fits
    (cells.drop position) (values.drop position)
  refine ⟨assigned, types, holds, ?_⟩
  have reached : (values.take position).length = position := by
    rw [List.length_take]
    omega
  rw [List.take_append_drop, List.take_append_drop, reached] at walk
  rw [walk, List.drop_eq_getElem_cons inside, List.drop_eq_getElem_cons within]
  simp [assignFrom, assign, failed, Except.map]

/-- Values of which one does not fit are not all assigned. -/
theorem assignFrom_of_not_fits (position : Nat) {cells : List Cell} {values : List Value}
    (aligned : cells.length = values.length) (unfit : ¬ List.Forall₂ Fits cells values) :
    ∃ error, (assignFrom position cells values).1 = .error error := by
  obtain ⟨place, mismatch, first⟩ := exists_firstUnfit aligned unfit
  obtain ⟨assigned, _, _, walk⟩ := assignFrom_of_firstUnfit position first
  exact ⟨_, congrArg Prod.fst walk⟩

end Cell

namespace Destination

/-- Whether a row can be laid over destinations: the row could be had, no sequence is in its way,
and it has one value for every cell, of a kind that fits the cell. -/
def Accepts (destinations : List Destination) (row : Except Error (List Value)) : Prop :=
  areFlat destinations = true ∧
    ∃ values, row = .ok values ∧ List.Forall₂ Cell.Fits (leavesOfAll destinations) values

/-- Destinations with a row laid over fresh ones. They differ from the fresh ones in nothing but
content. The row is cut into consecutive slices by the widths of the destinations, and the leaves of
each hold its slice. -/
def HoldRow (fresh : List Destination) (row : Except Error (List Value))
    (filled : List Destination) : Prop :=
  blankAll filled = blankAll fresh ∧
    ∃ values, row = .ok values ∧ values.length = (leavesOfAll fresh).length ∧
      List.Forall₂ (fun destination slice => List.Forall₂ Cell.Holds destination.leaves slice)
        filled ((fresh.map fun destination => destination.leaves.length).splitLengths values)

/-- Lists that are related element by element are so slice by slice. -/
private theorem forall₂_splitLengths {α β : Type} {related : α → β → Prop} (widths : List Nat)
    {left : List α} {right : List β} (pairs : List.Forall₂ related left right) :
    List.Forall₂ (List.Forall₂ related) (widths.splitLengths left) (widths.splitLengths right) := by
  -- Both lists are cut at the same place, slice after slice.
  induction widths generalizing left right with
  | nil => exact .nil
  | cons width widths ih =>
    rw [List.splitLengths_cons, List.splitLengths_cons]
    exact .cons (List.forall₂_take width pairs) (ih (List.forall₂_drop width pairs))

/-- Destinations are as many after a row as before, also if it is laid over them only in part. -/
theorem length_receive (destinations : List Destination) (row : Except Error (List Value)) :
    (receive destinations row).2.length = destinations.length := by
  -- Only the cells inside are exchanged, and only if there is a row to lay over them.
  rw [receive]
  cases flatten destinations with
  | error error => rfl
  | ok cells =>
    cases row with
    | error error => rfl
    | ok values => exact length_refillEach destinations _

/-- A row that can be laid over destinations is, in full. -/
theorem receive_of_accepts {destinations : List Destination} {row : Except Error (List Value)}
    (accepted : Accepts destinations row) :
    ∃ filled, receive destinations row = (.ok (), filled) ∧
      HoldRow destinations row filled := by
  obtain ⟨flat, values, rfl, fits⟩ := accepted
  -- The leaves are assigned as one list, and then put back where they came from.
  obtain ⟨assigned, stored, types, holds⟩ := Cell.assignFrom_of_fits 0 fits
  have aligned : (leavesOfAll destinations).length = values.length := fits.length_eq
  have enough : (leavesOfAll destinations).length ≤ assigned.length := by
    rw [aligned, holds.length_eq]
  refine ⟨withCells destinations assigned, ?_, ?_, values, rfl, aligned.symm, ?_⟩
  · simp [receive, flatten_of_areFlat flat, Cell.assignAll, aligned, stored]
  · exact blankAll_refillEach destinations (by rw [List.append_nil, types])
  · -- The cells are cut as the values are, since there are as many of them.
    rw [← List.forall₂_map_left_iff, withCells, map_leaves_refillEach destinations assigned enough]
    exact forall₂_splitLengths _ holds

/-- A row that cannot be laid over destinations fails. -/
theorem receive_of_not_accepts {destinations : List Destination}
    {row : Except Error (List Value)} (refused : ¬ Accepts destinations row) :
    ∃ error, (receive destinations row).1 = .error error := by
  -- The destinations, the row, its length and its values are looked at in this order.
  by_cases flat : areFlat destinations = true
  · cases row with
    | error error => exact ⟨error, by simp [receive, flatten_of_areFlat flat]⟩
    | ok values =>
      by_cases aligned : (leavesOfAll destinations).length = values.length
      · have unfit : ¬ List.Forall₂ Cell.Fits (leavesOfAll destinations) values :=
          fun fits => refused ⟨flat, values, rfl, fits⟩
        obtain ⟨error, failed⟩ := Cell.assignFrom_of_not_fits 0 aligned unfit
        exact ⟨error, by simp [receive, flatten_of_areFlat flat, Cell.assignAll, aligned, failed]⟩
      · simp [receive, flatten_of_areFlat flat, Cell.assignAll, aligned]
  · -- A sequence among the destinations is met before the row is looked at.
    cases flattened : flatten destinations with
    | error error => exact ⟨error, by simp [receive, flattened]⟩
    | ok cells => exact absurd (areFlat_of_flatten flattened) flat

end Destination

end RowQuery
