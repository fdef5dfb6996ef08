import RowQuery.Text.Quoted
import RowQuery.Value.FieldType

/-! Columns, orderings and the sources a select list is made of. -/

namespace RowQuery

open Text

/-- A column by its table and its name. -/
structure Column where
  table : String
  name : String
  deriving DecidableEq, Repr

namespace Column

/-- The column as it stands in a statement, behind its table where that is needed. -/
def render (column : Column) (qualified : Bool) : String :=
  if qualified then column.table ++ "." ++ column.name else column.name

/-- Columns are ordered by table, then by name, both character by character. -/
def compare (left right : Column) : Ordering :=
  (Ord.compare left.table right.table).then (Ord.compare left.name right.name)

end Column

/-- The order of rows by one column. -/
inductive Direction where
  | ascending
  | descending
  deriving DecidableEq, Repr

/-- The word for a direction. -/
def Direction.sql : Direction → String
  | .ascending => "ASC"
  | .descending => "DESC"

/-- One term of the order of rows. -/
structure OrderTerm where
  column : Column
  direction : Direction
  deriving DecidableEq, Repr

namespace OrderTerm

/-- The term as it stands in a statement. -/
def render (term : OrderTerm) (qualified : Bool) : String :=
  term.column.render qualified ++ " " ++ term.direction.sql

/-- Whether the greatest value comes first. -/
def isDescending (term : OrderTerm) : Bool :=
  term.direction = .descending

end OrderTerm

/-- A column with the type of its values. -/
structure TypedColumn where
  column : Column
  type : FieldType
  deriving DecidableEq, Repr

namespace TypedColumn

/-- The parts a description shows, by name. -/
def descriptionParts (typed : TypedColumn) : List (String × String) :=
  [("table", typed.column.table), ("name", typed.column.name), ("kind", typed.type.fullName)]

/-- The description on one line. -/
def description (typed : TypedColumn) : String :=
  let parts := typed.descriptionParts.map fun part => part.1 ++ ": " ++ quoted part.2
  "Column \x7b " ++ ", ".intercalate parts ++ " \x7d"

/-- The description with each part on a line of its own. -/
def longDescription (typed : TypedColumn) : String :=
  let lines := typed.descriptionParts.map fun part =>
    "    " ++ part.1 ++ ": " ++ quoted part.2 ++ ",\n"
  "Column \x7b\n" ++ String.join lines ++ "\x7d"

end TypedColumn

/-- A declared table: its name and its columns in order. -/
structure Table where
  name : String
  fields : List (String × FieldType)
  deriving DecidableEq, Repr

/-- The columns of a declared table. -/
def Table.columns (table : Table) : List Column :=
  table.fields.map fun field => ⟨table.name, field.1⟩

/-- What can be named in a select list. -/
inductive Source where
  | column (column : Column)
  | group (columns : List Column)
  | table (table : Table)
  | several (sources : List Source)

namespace Source

mutual

/-- The columns of a source, in order. -/
def columns : Source → List Column
  | .column single => [single]
  | .group members => members
  | .table declared => declared.columns
  | .several sources => columnsOfAll sources

/-- The columns of several sources, one after the other. -/
def columnsOfAll : List Source → List Column
  | [] => []
  | source :: rest => source.columns ++ columnsOfAll rest

end

end Source

end RowQuery
