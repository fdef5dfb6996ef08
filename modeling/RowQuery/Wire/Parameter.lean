import RowQuery.Json.Writer
import RowQuery.Wire.Basic
import RowQuery.Text.Utf8
import RowQuery.Value.FieldType

/-! Bound values in the binary form of their parameter's type. -/

namespace RowQuery.Wire

open Number Text Time

/-- Why a value cannot be sent as a parameter. -/
inductive EncodingError where
  | tooLarge
  | tooSmall
  /-- The value, converted to the given type, is not one of the parameter's type. -/
  | wrongType (given : FieldType) (parameter : WireType)
  deriving DecidableEq, Repr

/-- The text of an encoding error. -/
def EncodingError.message : EncodingError → String
  | .tooLarge => "number too large to fit in target type"
  | .tooSmall => "number too small to fit in target type"
  | .wrongType given parameter =>
    "cannot convert between the Rust type `" ++ given.fullName ++ "` and the Postgres type `" ++
      parameter.shownName ++ "`"

/-- An integer in the given number of bytes, if it fits them. -/
def checkedInteger (width : Nat) (integer : Int) : Except EncodingError (List UInt8) :=
  let bound : Int := (1 <<< (8 * width - 1) : Nat)
  if bound ≤ integer then .error .tooLarge
  else if integer < -bound then .error .tooSmall
  else .ok (signedBigEndian width integer)

/-- The microseconds from the server's epoch to a moment, cut off toward the epoch. -/
def microseconds (timestamp : Timestamp) : Int :=
  Int.tdiv ((timestamp.seconds - epochSecond) * 1000000000 + timestamp.nanoseconds) 1000

/-- What goes in front of a text in the binary form of a type, if the type takes texts. Those that
extensions add are told by their names, and some of them have the version of their format there. -/
def WireType.textFront? : WireType → Option (List UInt8)
  | .text | .varchar | .bpchar | .name | .unknown => some []
  | .other _ typeName =>
    if typeName = "citext" then some []
    else if typeName ∈ ["ltree", "lquery", "ltxtquery"] then some [1]
    else none
  | _ => none

/-- The binary form of a value as a parameter of a type. -/
def encode (value : Value) (parameter : WireType) : Except EncodingError WireValue :=
  match value, parameter with
  | .null, _ => .ok none
  | .bool truth, .bool => .ok (some [if truth then 1 else 0])
  | .bool _, _ => .error (.wrongType .bool parameter)
  | .int integer, .int2 => (checkedInteger 2 integer.toInt).map some
  | .int integer, .int4 => (checkedInteger 4 integer.toInt).map some
  | .int integer, .int8 => .ok (some (signedBigEndian 8 integer.toInt))
  | .int _, _ => .error (.wrongType .int64 parameter)
  | .float number, .float4 => .ok (some (bigEndian 4 number.narrow.word.toNat))
  | .float number, .float8 => .ok (some (bigEndian 8 number.word.toNat))
  | .float _, _ => .error (.wrongType .float64 parameter)
  | .text text, parameter =>
    match parameter.textFront? with
    | some front => .ok (some (front ++ textBytes text))
    | none => .error (.wrongType .text parameter)
  | .bytes bytes, .bytea => .ok (some bytes)
  | .bytes _, _ => .error (.wrongType .bytes parameter)
  | .uuid uuid, .uuid => .ok (some uuid.bytes)
  | .uuid _, _ => .error (.wrongType .uuid parameter)
  | .timestamp moment, .timestamp | .timestamp moment, .timestamptz =>
    .ok (some (signedBigEndian 8 (microseconds moment)))
  | .timestamp _, _ => .error (.wrongType .timestamp parameter)
  | .json json, .json => .ok (some (textBytes json.val.text))
  -- The version of the format goes in front.
  | .json json, .jsonb => .ok (some (1 :: textBytes json.val.text))
  | .json _, _ => .error (.wrongType .json parameter)

end RowQuery.Wire
