import RowQuery.Error
import RowQuery.Json.Node
import RowQuery.Wire.Basic
import RowQuery.Text.Utf8

/-! Result rows: cells in the binary form of their column's type, read as values. -/

namespace RowQuery.Wire

open Number Text Time

/-- The integer of bytes in two's complement, if there are as many as asked for. -/
def integerOfBytes? (width : Nat) (bytes : List UInt8) : Option Value :=
  if bytes.length = width then some (.int (Int64.ofInt (ofSignedBigEndian bytes))) else none

/-- The moment that a count of microseconds from the server's epoch leads to, if it can be held. -/
def timestampOfBytes? (bytes : List UInt8) : Option Value :=
  if bytes.length = 8 then
    let microseconds := ofSignedBigEndian bytes
    (Timestamp.ofParts? (epochSecond + microseconds / 1000000)
      (microseconds % 1000000 * 1000).toNat).map .timestamp
  else none

/-- The JSON value of a text in bytes. -/
def jsonOfBytes? (bytes : List UInt8) : Option Value := do
  let text ← textOfBytes? bytes
  let json ← Json.ofText? Json.nestingLimit text
  some (.json json.sorted)

/-- How the cells of a type are read, if they can be. -/
def WireType.reader? : WireType → Option (List UInt8 → Option Value)
  | .bool => some fun
    | [byte] => some (.bool (byte != 0))
    | _ => none
  | .int2 => some (integerOfBytes? 2)
  | .int4 => some (integerOfBytes? 4)
  | .int8 => some (integerOfBytes? 8)
  | .float4 => some fun bytes =>
    if bytes.length = 4 then
      some (.float (Binary32.widen ⟨UInt32.ofNat (ofBigEndian bytes)⟩))
    else none
  | .float8 => some fun bytes =>
    if bytes.length = 8 then some (.float ⟨UInt64.ofNat (ofBigEndian bytes)⟩) else none
  | .text | .varchar | .bpchar | .name => some fun bytes => (textOfBytes? bytes).map .text
  | .bytea => some fun bytes => some (.bytes bytes)
  | .uuid => some fun bytes => (Uuid.ofBytes? bytes).map .uuid
  | .timestamp | .timestamptz => some timestampOfBytes?
  | .json => some jsonOfBytes?
  | .jsonb => some fun
    -- The first byte is the version of the format, of which there is one.
    | 1 :: bytes => jsonOfBytes? bytes
    | _ => none
  | .unknown | .other _ _ => none

/-- A column of a result. -/
structure ResultColumn where
  name : String
  type : WireType
  deriving DecidableEq, Repr

/-- The value of a cell, by its column and that column's position. -/
def ResultColumn.value (column : ResultColumn) (position : Nat) (cell : WireValue) :
    Except Error Value :=
  match column.type.reader? with
  | none => .error (.decode column.name ("unsupported column type " ++ column.type.shownName))
  | some read =>
    -- A type that cannot be read fails even where there is nothing to read.
    match cell with
    | none => .ok .null
    | some bytes =>
      match read bytes with
      | some value => .ok value
      | none => .error (.decode column.name ("error deserializing column " ++ toString position))

/-- The values of a row from a position on, up to the first cell that cannot be read. -/
def readRowFrom (position : Nat) : List ResultColumn → List WireValue → Except Error (List Value)
  | [], _ => .ok []
  | column :: columns, cells =>
    -- A row that is too short counts as filled up with nothing.
    match column.value position (cells.head?.getD none) with
    | .error error => .error error
    | .ok value => (readRowFrom (position + 1) columns cells.tail).map (value :: ·)

/-- The values of a row. -/
def readRow (columns : List ResultColumn) (cells : List WireValue) : Except Error (List Value) :=
  readRowFrom 0 columns cells

end RowQuery.Wire
