import RowQuery.Value.Description

/-! What is reported about executed statements, and the options that say how. -/

namespace RowQuery

/-- The weight of a report. -/
inductive LogLevel where
  | error
  | warn
  | info
  | debug
  | trace
  deriving DecidableEq, Repr

/-- How a statement is checked and reported when it is executed. -/
structure ExecutionOptions where
  /-- Whether the destinations are counted against the selected columns before anything is sent. -/
  checkWidth : Bool := true
  level : LogLevel := .debug
  /-- The number of bytes after which a reported statement is cut off, if it is. -/
  shownLength : Option Nat := some 200
  showsBinds : Bool := false
  deriving DecidableEq, Repr

/-- The calls that execute a statement. -/
inductive Operation where
  | selectFirst
  | selectAll
  | insertValues
  deriving DecidableEq, Repr

/-- The name under which an operation is reported. -/
def Operation.name : Operation → String
  | .selectFirst => "select.first"
  | .selectAll => "select.all"
  | .insertValues => "insert.values"

/-- A report. -/
inductive LogEvent where
  /-- A statement is about to be sent; the binds are shown only on request. -/
  | statement (level : LogLevel) (operation : Operation) (parameterCount : Nat) (sql : String)
      (binds : Option (List Value))
  /-- Rows have been appended to every destination. -/
  | rowsAppended (level : LogLevel) (operation : Operation) (rows : Nat)

/-- The longest prefix of whole characters that takes no more bytes than given. -/
def withinBytes (most : Nat) : List Char → List Char
  | [] => []
  | char :: rest =>
    -- A character is kept as a whole, and nothing is kept behind one that is not.
    if char.utf8Size ≤ most then char :: withinBytes (most - char.utf8Size) rest else []

/-- A statement as it is reported: cut off, with three dots, if it is too long. -/
def shownSql (options : ExecutionOptions) (sql : String) : String :=
  match options.shownLength with
  | none => sql
  | some most =>
    if most < sql.utf8ByteSize then String.ofList (withinBytes most sql.toList) ++ "..." else sql

/-- The report of a statement with its bound values. -/
def LogEvent.ofStatement (options : ExecutionOptions) (operation : Operation) (sql : String)
    (binds : List Value) : LogEvent :=
  .statement options.level operation binds.length (shownSql options sql)
    (if options.showsBinds then some binds else none)

end RowQuery
