import RowQuery.Json.Node
import RowQuery.Json.Writer
import RowQuery.Time.Reader
import RowQuery.Value.Basic

/-! Values as JSON: an object whose one key names the kind, or the kind alone for null. -/

namespace RowQuery

open Number Time

namespace Value

/-- A byte as a JSON number. -/
def byteToJson (byte : UInt8) : Json :=
  .ofNatural byte.toNat (Nat.lt_trans byte.toNat_lt (by decide))

/-- The content of a value; a float that is no number has none. -/
def contentToJson : Value → Json
  | .null => .null
  | .bool value => .bool value
  | .int value =>
    .ofInteger ⟨value.toInt, value.le_toInt, Int.lt_trans value.toInt_lt (by decide)⟩
  | .float value =>
    match JsonReal.ofDouble? value with
    | some real => .number (.real real)
    | none => .null
  | .text value => .string value
  | .bytes value => .array (value.map byteToJson)
  | .uuid value => .string value.text
  | .timestamp value => .string value.text
  | .json value => value.val

/-- The name under which the content of a value is kept. -/
def tag : Value → String
  | .null => "Null"
  | .bool _ => "Bool"
  | .int _ => "Int"
  | .float _ => "Float"
  | .text _ => "Text"
  | .bytes _ => "Bytes"
  | .uuid _ => "Uuid"
  | .timestamp _ => "Timestamp"
  | .json _ => "Json"

/-- A value as JSON. -/
def toJson : Value → Json
  | .null => .string "Null"
  | value => .object [(value.tag, value.contentToJson)]

/-- Reads an integer that fits a signed 64-bit word. -/
def intOfNumber? : JsonNumber → Option Int64
  | .integer value =>
    if value.val < 0x8000000000000000 then some (Int64.ofInt value.val) else none
  | .real _ => none

/-- Reads a double, which may be written as an integer. -/
def floatOfNumber : JsonNumber → Binary64
  | .integer value => Binary64.ofInt value.val
  | .real value => value.val

/-- Reads a byte. -/
def byteOfNode? : JsonNode → Option UInt8
  | .number numeral => do
    match ← numeral.toNumber? with
    | .integer value =>
      if 0 ≤ value.val ∧ value.val < 256 then some (UInt8.ofNat value.val.toNat) else none
    -- A number with a point or an exponent is no byte, whole or not.
    | .real _ => none
  | _ => none

/-- Reads the content kept under a tag, nesting at most the given number of levels. -/
def ofContent? (levels : Nat) (tag : String) (content : JsonNode) : Option Value :=
  match tag, content with
  | "Null", .null => some .null
  | "Bool", .bool value => some (.bool value)
  | "Int", .number numeral => do some (.int (← intOfNumber? (← numeral.toNumber?)))
  | "Float", .number numeral => do some (.float (floatOfNumber (← numeral.toNumber?)))
  | "Text", .string spelled => spelled.map .text
  | "Bytes", .array items =>
    -- The list of bytes is a level of its own; every other kind but JSON nests nothing.
    if levels = 0 then none else (items.mapM byteOfNode?).map .bytes
  | "Uuid", .string spelled => do some (.uuid (← Uuid.ofText? (← spelled)))
  | "Timestamp", .string spelled => do some (.timestamp (← Timestamp.ofText? (← spelled)))
  | "Json", node => (node.toJson? levels).map fun json => .json json.sorted
  | _, _ => none

/-- Reads a value that nests at most the given number of levels. -/
def ofNode? : Nat → JsonNode → Option Value
  | _, .string spelled => if spelled = some "Null" then some .null else none
  | levels + 1, .object [(some tag, content)] => ofContent? levels tag content
  | _, _ => none

/-- The text a value is kept as. -/
def persisted (value : Value) : String :=
  value.toJson.text

/-- Reads the text a value is kept as. -/
def ofPersisted? (text : String) : Option Value := do
  let node ← JsonNode.ofText? text
  ofNode? Json.nestingLimit node

end Value

end RowQuery
