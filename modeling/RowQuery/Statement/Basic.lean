import RowQuery.Value.Persistence

/-! Statements as they are sent: a text with placeholders, and the values bound at them. -/

namespace RowQuery

/-- A text and its bound values in the order of the placeholders. -/
structure Statement where
  sql : String
  binds : List Value

namespace Statement

/-- The number of question marks in the text. -/
def placeholders (statement : Statement) : Nat :=
  statement.sql.toList.count '?'

/-- Equality of texts and of bound values. -/
def equals (left right : Statement) : Bool :=
  left.sql == right.sql && left.binds == right.binds

instance : BEq Statement := ⟨equals⟩

/-- A statement as JSON. -/
def toJson (statement : Statement) : Json :=
  .object [("sql", .string statement.sql), ("binds", .array (statement.binds.map Value.toJson))]

/-- The text a statement is kept as. -/
def persisted (statement : Statement) : String :=
  statement.toJson.text

/-- Reads the bound values, nesting at most the given number of levels. -/
def bindsOfNode? : Nat → JsonNode → Option (List Value)
  | levels + 1, .array items => items.mapM (Value.ofNode? levels)
  | _, _ => none

/-- The members of an object that have a given key. -/
def membersNamed (key : String) (members : List (Option String × JsonNode)) : List JsonNode :=
  (members.filter fun member => member.1 = some key).map (·.2)

/-- Reads a statement from an object with both members, or from an array of the two. -/
def ofNode? : Nat → JsonNode → Option Statement
  | levels + 1, .array [.string sql, binds] => do
    some ⟨← sql, ← bindsOfNode? levels binds⟩
  | levels + 1, .object members =>
    -- Other members are skipped unread, but every key has to be a text.
    if members.all fun member => member.1.isSome then
      match membersNamed "sql" members, membersNamed "binds" members with
      | [.string sql], [binds] => do some ⟨← sql, ← bindsOfNode? levels binds⟩
      | _, _ => none
    else none
  | _, _ => none

/-- Reads the text a statement is kept as. -/
def ofPersisted? (text : String) : Option Statement := do
  let node ← JsonNode.ofText? text
  ofNode? Json.nestingLimit node

end Statement

end RowQuery
