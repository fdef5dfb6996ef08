import RowQuery.Destination.Basic
import RowQuery.Log
import RowQuery.Statement.Basic

/-! Insertions of one row. -/

namespace RowQuery

/-- A row to insert: column names and values, which correspond in any row that is well formed. -/
structure NewRow where
  columns : List String
  values : List Value

/-- The row of a record's cells, each with the column it is written to. -/
def NewRow.ofCells (cells : List (String × Cell)) : NewRow :=
  ⟨cells.map (·.1), cells.map (·.2.value)⟩

/-- An insertion into a table. -/
structure Insertion where
  table : String
  options : ExecutionOptions := {}

namespace Insertion

/-- The text of the insertion of a row, with one placeholder for each column, and its values. -/
def toStatement (insertion : Insertion) (row : NewRow) : Statement where
  sql :=
    "INSERT INTO " ++ insertion.table ++ " (" ++ ", ".intercalate row.columns ++ ") VALUES (" ++
      ", ".intercalate (List.replicate row.columns.length "?") ++ ")"
  binds := row.values

end Insertion

end RowQuery
