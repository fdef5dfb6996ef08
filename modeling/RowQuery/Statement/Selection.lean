import RowQuery.Condition
import RowQuery.Error
import RowQuery.Log
import RowQuery.Statement.Basic

/-! Selections of columns, with conditions and an order of rows. -/

namespace RowQuery

/-- A selection of columns. -/
structure Selection where
  columns : List Column
  conditions : List Condition
  order : List OrderTerm
  options : ExecutionOptions

namespace Selection

/-- The selection of every column of the sources. -/
def ofSources (sources : List Source) : Selection :=
  ⟨Source.columnsOfAll sources, [], [], {}⟩

/-- Adds conditions, all of which must hold. -/
def filtered (selection : Selection) (conditions : List Condition) : Selection :=
  { selection with conditions := selection.conditions ++ conditions }

/-- Adds terms to the order of rows. -/
def ordered (selection : Selection) (order : List OrderTerm) : Selection :=
  { selection with order := selection.order ++ order }

/-- Replaces the options. -/
def withOptions (selection : Selection) (options : ExecutionOptions) : Selection :=
  { selection with options }

/-- Puts a name at its place among distinct names in order. -/
def insertName (name : String) : List String → List String
  | [] => [name]
  | other :: rest =>
    if name < other then name :: other :: rest
    else if name = other then other :: rest
    else other :: insertName name rest

/-- The tables of the selected columns, each once, in order. -/
def tables (selection : Selection) : List String :=
  selection.columns.foldr (fun column names => insertName column.table names) []

/-- Whether columns need their tables in front: they come from more than one. -/
def isQualified (selection : Selection) : Bool :=
  1 < selection.tables.length

/-- The condition all rows must meet. -/
def condition (selection : Selection) : Condition :=
  Condition.all selection.conditions

/-- The list of selected columns. -/
def columnList (selection : Selection) : String :=
  ", ".intercalate (selection.columns.map fun column => column.render selection.isQualified)

/-- The condition with its keyword, if there is one. -/
def whereClause (selection : Selection) : String :=
  let condition := selection.condition.renderAlone selection.isQualified
  if condition = "" then "" else " WHERE " ++ condition

/-- The order of rows with its keyword, if there is one. -/
def orderClause (selection : Selection) : String :=
  if selection.order = [] then ""
  else
    " ORDER BY " ++
      ", ".intercalate (selection.order.map fun term => term.render selection.isQualified)

/-- The text of the selection and the values its conditions bind. -/
def toStatement (selection : Selection) : Statement where
  sql :=
    "SELECT " ++ selection.columnList ++ " FROM " ++ ", ".intercalate selection.tables ++
      selection.whereClause ++ selection.orderClause
  binds := selection.condition.binds

/-- Counts targets against the selected columns, if the options ask for it. -/
def checkWidth (selection : Selection) (targets : Nat) : Except Error Unit :=
  if selection.options.checkWidth ∧ targets ≠ selection.columns.length then
    .error (.arity selection.columns.length targets)
  else .ok ()

end Selection

end RowQuery
