import RowQuery.Destination.Flatten

/-! Rows laid over destinations: value by value, up to the first that does not fit. -/

namespace RowQuery

namespace Cell

/-- Assigns values to cells from a position on, up to the first value that does not fit its cell. -/
def assignFrom (position : Nat) : List Cell → List Value → Except Error Unit × List Cell
  | cell :: cells, value :: values =>
    match cell.assign value with
    | .error mismatch =>
      -- The position stands for a name, and neither this cell nor those behind are touched.
      (.error (.decode (toString position) (Error.typeMismatch mismatch).message), cell :: cells)
    | .ok assigned =>
      let (result, rest) := assignFrom (position + 1) cells values
      (result, assigned :: rest)
  | cells, _ => (.ok (), cells)

/-- Assigns a row of values to as many cells. Cells before a value that does not fit keep what they
were assigned. -/
def assignAll (cells : List Cell) (values : List Value) : Except Error Unit × List Cell :=
  if cells.length = values.length then assignFrom 0 cells values
  else
    let reason := "expected " ++ toString values.length ++
      " destination arguments in scan, not " ++ toString cells.length
    (.error (.driver reason), cells)

end Cell

namespace Destination

/-- Lays a row over destinations. Nothing changes if the row could not be had. -/
def receive (destinations : List Destination) (row : Except Error (List Value)) :
    Except Error Unit × List Destination :=
  match flatten destinations with
  | .error error => (.error error, destinations)
  | .ok cells =>
    -- The row is only looked at once the destinations are known to take one.
    match row with
    | .error error => (.error error, destinations)
    | .ok values =>
      let (result, cells) := Cell.assignAll cells values
      (result, withCells destinations cells)

end Destination

end RowQuery
