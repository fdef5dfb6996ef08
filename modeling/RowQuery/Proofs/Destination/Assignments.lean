import Mathlib.Data.List.Induction
import RowQuery.Proofs.Destination.Rows

/-!
Destinations after rows have been laid over them, one after the other, whether or not each of them
fitted. A row that is too long or too short changes nothing, and any other overwrites the cells up
to its first value that does not fit. So each cell holds its value of the latest row that reached
it, and the shape of the destinations never changes.
-/

namespace RowQuery

namespace Cell

/-- A row reaches a position if it has a value for every cell, and its values up to that position
all fit. -/
structure Reaches (cells : List Cell) (row : List Value) (position : Nat) : Prop where
  aligned : row.length = cells.length
  inside : position < cells.length
  fits : List.Forall₂ Fits (cells.take (position + 1)) (row.take (position + 1))

/-- Whether a value fits a cell depends on nothing but the cell's type. -/
theorem forall₂_fits_congr {left right : List Cell} (types : left.map type = right.map type)
    (values : List Value) :
    List.Forall₂ Fits left values ↔ List.Forall₂ Fits right values := by
  -- To fit a cell is to be convertible to its type.
  have byTypes (cells : List Cell) : List.Forall₂ Fits cells values ↔
      List.Forall₂ (fun (type : FieldType) value => ∃ content, type.ofValue value = .ok content)
        (cells.map type) values := by
    rw [List.forall₂_map_left_iff]
    rfl
  rw [byTypes left, byTypes right, types]

/-- How far a row reaches depends on nothing but the types of the cells. -/
theorem Reaches.congr {left right : List Cell} (types : left.map type = right.map type)
    {row : List Value} {position : Nat} (reaches : Reaches left row position) :
    Reaches right row position := by
  -- Lengths are part of the types, and so are the cells up to the position.
  have lengths : left.length = right.length := by simpa using congrArg List.length types
  have taken : (left.take (position + 1)).map type = (right.take (position + 1)).map type := by
    rw [List.map_take, types, List.map_take]
  exact ⟨reaches.aligned.trans lengths, lengths ▸ reaches.inside,
    (forall₂_fits_congr taken _).mp reaches.fits⟩

/-- A row with a value for every cell reaches exactly the positions before its first value that does
not fit. -/
theorem FirstUnfit.reaches_iff {cells : List Cell} {row : List Value} {position : Nat}
    {mismatch : TypeMismatch} (unfit : FirstUnfit cells row position mismatch)
    (aligned : row.length = cells.length) (place : Nat) :
    Reaches cells row place ↔ place < position := by
  obtain ⟨cell, value, found, given, refused⟩ := unfit.refused
  obtain ⟨inside, same⟩ := List.getElem?_eq_some_iff.mp found
  constructor
  · intro reaches
    by_contra beyond
    -- The value would fit as one of those before the place.
    obtain ⟨content, converted⟩ : cell.Fits value := by
      obtain ⟨lengths, each⟩ := List.forall₂_iff_get.mp reaches.fits
      have within : position < (cells.take (place + 1)).length := by
        rw [List.length_take]
        omega
      have fits := each position within (lengths ▸ within)
      obtain ⟨_, sameValue⟩ := List.getElem?_eq_some_iff.mp given
      simpa [same, sameValue] using fits
    rw [refused] at converted
    contradiction
  · intro before
    refine ⟨aligned, by omega, ?_⟩
    have fits := List.forall₂_take (place + 1) unfit.fits
    rwa [List.take_take, List.take_take, Nat.min_eq_left before] at fits

/-- A row whose values all fit reaches every cell. -/
theorem reaches_of_fits {cells : List Cell} {row : List Value}
    (fits : List.Forall₂ Fits cells row) {position : Nat} (inside : position < cells.length) :
    Reaches cells row position :=
  ⟨fits.length_eq.symm, inside, List.forall₂_take (position + 1) fits⟩

/-- Cells that hold values hold each its own. -/
theorem exists_holds {cells : List Cell} {values : List Value}
    (holds : List.Forall₂ Holds cells values) {position : Nat} (inside : position < cells.length) :
    ∃ cell value, cells[position]? = some cell ∧ values[position]? = some value ∧
      cell.Holds value := by
  obtain ⟨lengths, each⟩ := List.forall₂_iff_get.mp holds
  have within : position < values.length := lengths ▸ inside
  exact ⟨cells[position], values[position], List.getElem?_eq_getElem inside,
    List.getElem?_eq_getElem within, each position inside within⟩

/-- A row with a value for every cell is laid over them from the first one on. -/
theorem assignAll_of_aligned {cells : List Cell} {row : List Value}
    (aligned : row.length = cells.length) : assignAll cells row = assignFrom 0 cells row := by
  rw [assignAll, if_pos aligned.symm]

/-- A row laid over cells changes no types, and the cells that it reaches hold its values; the
others are what they were. -/
theorem assignAll_overwrites (cells : List Cell) (row : List Value) :
    (assignAll cells row).2.map type = cells.map type ∧
      ∀ position,
        (Reaches cells row position → ∃ cell value, (assignAll cells row).2[position]? = some cell ∧
          row[position]? = some value ∧ cell.Holds value) ∧
        (¬ Reaches cells row position → (assignAll cells row).2[position]? = cells[position]?) := by
  by_cases aligned : row.length = cells.length
  · rw [assignAll_of_aligned aligned]
    by_cases fits : List.Forall₂ Fits cells row
    · obtain ⟨assigned, walk, types, holds⟩ := assignFrom_of_fits 0 fits
      have lengths : assigned.length = cells.length := by simpa using congrArg List.length types
      rw [walk]
      refine ⟨types, fun position => ⟨fun reaches => ?_, fun beyond => ?_⟩⟩
      · exact exists_holds holds (lengths ▸ reaches.inside)
      · -- Only positions outside are not reached, and there is nothing there.
        have outside : cells.length ≤ position :=
          Nat.le_of_not_lt fun inside => beyond (reaches_of_fits fits inside)
        rw [List.getElem?_eq_none outside, List.getElem?_eq_none (lengths ▸ outside)]
    · obtain ⟨limit, mismatch, unfit⟩ := exists_firstUnfit aligned.symm fits
      obtain ⟨assigned, types, holds, walk⟩ := assignFrom_of_firstUnfit 0 unfit
      obtain ⟨_, _, found, _⟩ := unfit.refused
      obtain ⟨inside, _⟩ := List.getElem?_eq_some_iff.mp found
      have length : assigned.length = limit := by
        have lengths := congrArg List.length types
        simp only [List.length_map, List.length_take] at lengths
        omega
      rw [walk]
      refine ⟨?_, fun position => ?_⟩
      · rw [List.map_append, types, ← List.map_append, List.take_append_drop]
      rw [unfit.reaches_iff aligned position]
      constructor
      · intro before
        obtain ⟨cell, value, stored, given, holds⟩ := exists_holds holds (length ▸ before)
        rw [List.getElem?_take_of_lt before] at given
        exact ⟨cell, value, by rw [List.getElem?_append_left (length ▸ before), stored], given,
          holds⟩
      · intro behind
        rw [List.getElem?_append_right (by omega), length, List.getElem?_drop]
        congr 1
        omega
  · -- A row of another length reaches nothing and changes nothing.
    have walk : (assignAll cells row).2 = cells := by rw [assignAll, if_neg (Ne.symm aligned)]
    rw [walk]
    exact ⟨rfl, fun position => ⟨fun reaches => absurd reaches.aligned aligned, fun _ => rfl⟩⟩

end Cell

namespace Destination

/-- Destinations after rows have been laid over them one after the other, whatever became of
each. -/
def receiveEach (destinations : List Destination) (rows : List (List Value)) : List Destination :=
  rows.foldl (fun held row => (receive held (.ok row)).2) destinations

/-- A row laid over flat destinations is laid over their leaves, and changes nothing but their
contents. -/
theorem receive_of_areFlat {destinations : List Destination} (flat : areFlat destinations = true)
    (row : List Value) :
    (receive destinations (.ok row)).1 = (Cell.assignAll (leavesOfAll destinations) row).1 ∧
      leavesOfAll (receive destinations (.ok row)).2 =
        (Cell.assignAll (leavesOfAll destinations) row).2 ∧
      blankAll (receive destinations (.ok row)).2 = blankAll destinations := by
  have types := (Cell.assignAll_overwrites (leavesOfAll destinations) row).1
  simp only [receive, flatten_of_areFlat flat]
  exact ⟨trivial, leavesOfAll_withCells types⟩

/-- One row more overwrites the cells that it reaches, and no others. -/
theorem receive_overwrites {destinations : List Destination}
    (flat : areFlat destinations = true) (row : List Value) (position : Nat) :
    (Cell.Reaches (leavesOfAll destinations) row position →
      ∃ cell value, (leavesOfAll (receive destinations (.ok row)).2)[position]? = some cell ∧
        row[position]? = some value ∧ cell.Holds value) ∧
    (¬ Cell.Reaches (leavesOfAll destinations) row position →
      (leavesOfAll (receive destinations (.ok row)).2)[position]? =
        (leavesOfAll destinations)[position]?) := by
  rw [(receive_of_areFlat flat row).2.1]
  exact (Cell.assignAll_overwrites (leavesOfAll destinations) row).2 position

/-- Rows laid over flat destinations one after the other change nothing but their contents. -/
theorem blankAll_receiveEach {destinations : List Destination}
    (flat : areFlat destinations = true) (rows : List (List Value)) :
    blankAll (receiveEach destinations rows) = blankAll destinations := by
  -- The induction is on the rows, and after each of them the destinations are still flat.
  induction rows generalizing destinations with
  | nil => rfl
  | cons row rows ih =>
    have kept := (receive_of_areFlat flat row).2.2
    have still : areFlat (receive destinations (.ok row)).2 = true := by
      rw [← areFlat_blankAll, kept, areFlat_blankAll, flat]
    exact (ih still).trans kept

/-- After rows laid over flat destinations one after the other, a cell that none of them reached is
what it was, and any other holds its value of the latest row that reached it. -/
theorem receiveEach_overwrites {destinations : List Destination}
    (flat : areFlat destinations = true) (rows : List (List Value)) (position : Nat) :
    ((∀ row ∈ rows, ¬ Cell.Reaches (leavesOfAll destinations) row position) →
      (leavesOfAll (receiveEach destinations rows))[position]? =
        (leavesOfAll destinations)[position]?) ∧
    ∀ earlier row later, rows = earlier ++ row :: later →
      Cell.Reaches (leavesOfAll destinations) row position →
      (∀ other ∈ later, ¬ Cell.Reaches (leavesOfAll destinations) other position) →
      ∃ cell value, (leavesOfAll (receiveEach destinations rows))[position]? = some cell ∧
        row[position]? = some value ∧ cell.Holds value := by
  -- The induction takes away the last row, which decides if it reaches the cell.
  induction rows using List.reverseRecOn with
  | nil => exact ⟨fun _ => rfl, fun earlier row later none => by simp at none⟩
  | append_singleton rows last ih =>
    have kept := blankAll_receiveEach flat rows
    have still : areFlat (receiveEach destinations rows) = true := by
      rw [← areFlat_blankAll, kept, areFlat_blankAll, flat]
    have types := map_type_of_blankAll kept
    have step : receiveEach destinations (rows ++ [last]) =
        (receive (receiveEach destinations rows) (.ok last)).2 := by
      simp [receiveEach]
    obtain ⟨overwritten, untouched⟩ := receive_overwrites still last position
    rw [step]
    constructor
    · intro none
      rw [untouched fun reaches => none last (by simp) (reaches.congr types)]
      exact ih.1 fun row member => none row (by simp [member])
    · intro earlier row later split reaches latest
      rcases List.eq_nil_or_concat later with rfl | ⟨before, final, rfl⟩
      · -- The last row is the one that reaches the cell.
        obtain ⟨rfl, same⟩ := List.append_inj' split rfl
        obtain rfl := List.singleton_inj.mp same
        exact overwritten (reaches.congr types.symm)
      · -- The row is an earlier one, and the last does not reach the cell.
        rw [List.concat_eq_append, ← List.cons_append, ← List.append_assoc] at split
        obtain ⟨others, same⟩ := List.append_inj' split rfl
        obtain rfl := List.singleton_inj.mp same
        rw [untouched fun reaches => latest last (by simp) (reaches.congr types)]
        exact ih.2 earlier row before others reaches fun other member =>
          latest other (by simp [member])

/-- What rows do to cells. A row that is too long or too short changes nothing and fails. Any other
is laid over the cells up to its first value that cannot be converted: those before hold their
values converted, those from it on are what they were, and the failure names the position and says
what is wrong; without such a value all cells hold theirs. So after any rows, laid over the same
destinations one after the other, each cell holds its value of the latest row that reached it, or
what it held before. The shape of the destinations never changes. -/
theorem rows_overwrite_cells {destinations : List Destination} {cells : List Cell}
    (flattened : flatten destinations = .ok cells) :
    (∀ row : List Value,
      let received := receive destinations (.ok row)
      let after := leavesOfAll received.2
      blankAll received.2 = blankAll destinations ∧
      (row.length ≠ cells.length → received = (.error (.driver ("expected " ++
        toString row.length ++ " destination arguments in scan, not " ++
        toString cells.length)), destinations)) ∧
      (row.length = cells.length → ∀ position mismatch,
        Cell.FirstUnfit cells row position mismatch →
        received.1 = .error (.decode (toString position) (Error.typeMismatch mismatch).message) ∧
        ∃ assigned, List.Forall₂ Cell.Holds assigned (row.take position) ∧
          after = assigned ++ cells.drop position) ∧
      (row.length = cells.length →
        (∀ position mismatch, ¬ Cell.FirstUnfit cells row position mismatch) →
        received.1 = .ok () ∧ List.Forall₂ Cell.Holds after row)) ∧
    ∀ rows : List (List Value),
      let received := receiveEach destinations rows
      let after := leavesOfAll received
      blankAll received = blankAll destinations ∧
      ∀ position : Nat,
        ((∀ row ∈ rows, ¬ Cell.Reaches cells row position) → after[position]? = cells[position]?) ∧
        ∀ earlier row later, rows = earlier ++ row :: later → Cell.Reaches cells row position →
          (∀ other ∈ later, ¬ Cell.Reaches cells other position) →
          ∃ cell value, after[position]? = some cell ∧ row[position]? = some value ∧
            cell.Holds value := by
  obtain ⟨flat, rfl⟩ := flatten_eq_ok_iff.mp flattened
  refine ⟨fun row => ?_, fun rows =>
    ⟨blankAll_receiveEach flat rows, receiveEach_overwrites flat rows⟩⟩
  obtain ⟨result, leaves, kept⟩ := receive_of_areFlat flat row
  refine ⟨kept, ?_, ?_, ?_⟩
  · intro misaligned
    -- The cells go back to where they came from.
    simp only [receive, flattened, Cell.assignAll, if_neg (Ne.symm misaligned),
      withCells_leavesOfAll]
  · intro aligned position mismatch unfit
    obtain ⟨assigned, _, holds, walk⟩ := Cell.assignFrom_of_firstUnfit 0 unfit
    rw [Cell.assignAll_of_aligned aligned, walk] at result leaves
    rw [Nat.zero_add] at result
    exact ⟨result, assigned, holds, leaves⟩
  · intro aligned none
    have fits : List.Forall₂ Cell.Fits (leavesOfAll destinations) row := by
      by_contra unfit
      obtain ⟨position, mismatch, first⟩ := Cell.exists_firstUnfit aligned.symm unfit
      exact none position mismatch first
    obtain ⟨assigned, walk, _, holds⟩ := Cell.assignFrom_of_fits 0 fits
    rw [Cell.assignAll_of_aligned aligned, walk] at result leaves
    exact ⟨result, leaves ▸ holds⟩

/-- Of four rows laid over a number and a name, the first gives the name and the second the number:
the second has no name, the third a number that is too large, and the fourth is too short. -/
theorem rows_overwrite_cells_of_partial_rows :
    let destinations : List Destination :=
      [.record "User" [.scalar (.fresh .int16), .record "Name" [.scalar (.fresh .text)]]]
    let rows : List (List Value) :=
      [[.int 1, .text "ann"], [.int 2, .null], [.int 70000, .text "bob"], [.int 3]]
    let after := leavesOfAll (receiveEach destinations rows)
    flatten destinations = .ok [.fresh .int16, .fresh .text] ∧
      (∃ cell, after[0]? = some cell ∧ cell.Holds (.int 2)) ∧
      ∃ cell, after[1]? = some cell ∧ cell.Holds (.text "ann") := by
  intro destinations rows after
  have flattened : flatten destinations = .ok [.fresh .int16, .fresh .text] :=
    flatten_of_areFlat rfl
  obtain ⟨_, history⟩ := rows_overwrite_cells flattened
  have numbers := (history rows).2 0
  have names := (history rows).2 1
  -- The rows that do not reach a cell, each for a reason of its own.
  have tooShort (position : Nat) :
      ¬ Cell.Reaches [.fresh .int16, .fresh .text] [.int 3] position :=
    fun reaches => absurd reaches.aligned (by decide)
  have tooLarge (position : Nat) :
      ¬ Cell.Reaches [.fresh .int16, .fresh .text] [.int 70000, .text "bob"] position := by
    intro reaches
    obtain ⟨⟨content, converted⟩, _⟩ := List.forall₂_cons.mp reaches.fits
    contradiction
  have noName : ¬ Cell.Reaches [.fresh .int16, .fresh .text] [.int 2, .null] 1 := by
    intro reaches
    obtain ⟨_, rest⟩ := List.forall₂_cons.mp reaches.fits
    obtain ⟨⟨content, converted⟩, _⟩ := List.forall₂_cons.mp rest
    contradiction
  -- For each cell its latest row is named: the rows in front of it, itself, and those behind.
  refine ⟨flattened, ?_, ?_⟩
  · obtain ⟨cell, value, stored, given, holds⟩ := numbers.2 [[.int 1, .text "ann"]]
      [.int 2, .null] [[.int 70000, .text "bob"], [.int 3]] rfl
      ⟨rfl, by decide, .cons ⟨(2 : Int16), rfl⟩ .nil⟩ (by simp [tooLarge, tooShort])
    obtain rfl := Option.some.inj given
    exact ⟨cell, stored, holds⟩
  · obtain ⟨cell, value, stored, given, holds⟩ := names.2 [] [.int 1, .text "ann"]
      [[.int 2, .null], [.int 70000, .text "bob"], [.int 3]] rfl
      ⟨rfl, by decide, .cons ⟨(1 : Int16), rfl⟩ (.cons ⟨"ann", rfl⟩ .nil)⟩
      (by simp [noName, tooLarge, tooShort])
    obtain rfl := Option.some.inj given
    exact ⟨cell, stored, holds⟩

end Destination

end RowQuery
