import RowQuery.Value.Basic

/-! The types a field can have, their contents, and the passage between contents and values. -/

namespace RowQuery

open Number Time

/-- The type of a column or of a field that receives one. -/
inductive FieldType where
  | bool
  | int16
  | int32
  | int64
  | float32
  | float64
  | text
  | bytes
  | uuid
  | timestamp
  | json
  | value
  | optional (inner : FieldType)
  deriving DecidableEq, Repr

namespace FieldType

/-- What a field of the type holds. -/
abbrev Content : FieldType → Type
  | .bool => Bool
  | .int16 => Int16
  | .int32 => Int32
  | .int64 => Int64
  | .float32 => Binary32
  | .float64 => Binary64
  | .text => String
  | .bytes => List UInt8
  | .uuid => Uuid
  | .timestamp => Timestamp
  | .json => Json.Ordered
  | .value => Value
  | .optional inner => Option inner.Content

/-- What a field of the type holds before anything is assigned to it. -/
def initial : (type : FieldType) → type.Content
  | .bool => false
  | .int16 => (0 : Int16)
  | .int32 => (0 : Int32)
  | .int64 => (0 : Int64)
  | .float32 => (⟨0⟩ : Binary32)
  | .float64 => Binary64.zero
  | .text => ""
  | .bytes => ([] : List UInt8)
  | .uuid => Uuid.nil
  | .timestamp => Timestamp.epoch
  | .json => Json.null.sorted
  | .value => Value.null
  | .optional _ => none

/-- The name of the type in conversion errors; an optional type goes by its inner one. -/
def shortName : FieldType → String
  | .bool => "bool"
  | .int16 => "i16"
  | .int32 => "i32"
  | .int64 => "i64"
  | .float32 => "f32"
  | .float64 => "f64"
  | .text => "String"
  | .bytes => "Vec<u8>"
  | .uuid => "Uuid"
  | .timestamp => "DateTime<Utc>"
  | .json => "serde_json::Value"
  | .value => "Value"
  | .optional inner => inner.shortName

/-- The full name of the type, as reports about destinations and parameters show it. -/
def fullName : FieldType → String
  | .bool => "bool"
  | .int16 => "i16"
  | .int32 => "i32"
  | .int64 => "i64"
  | .float32 => "f32"
  | .float64 => "f64"
  | .text => "alloc::string::String"
  | .bytes => "alloc::vec::Vec<u8>"
  | .uuid => "uuid::Uuid"
  | .timestamp => "chrono::datetime::DateTime<chrono::offset::utc::Utc>"
  | .json => "serde_json::value::Value"
  | .value => "tessera::value::Value"
  | .optional inner => "core::option::Option<" ++ inner.fullName ++ ">"

/-- The value of a content. -/
def toValue : (type : FieldType) → type.Content → Value
  | .bool, content => .bool content
  | .int16, content => .int (Int16.toInt64 content)
  | .int32, content => .int (Int32.toInt64 content)
  | .int64, content => .int content
  | .float32, content => .float (Binary32.widen content)
  | .float64, content => .float content
  | .text, content => .text content
  | .bytes, content => .bytes content
  | .uuid, content => .uuid content
  | .timestamp, content => .timestamp content
  | .json, content => .json content
  | .value, content => content
  -- What is absent at any depth is the same null.
  | .optional _, none => .null
  | .optional inner, some content => inner.toValue content

end FieldType

/-- A value that does not fit the type of a field. -/
structure TypeMismatch where
  expected : String
  found : String
  deriving DecidableEq, Repr

namespace FieldType

/-- The mismatch of a type with a value of another kind. -/
def mismatch {α : Type} (type : FieldType) (value : Value) : Except TypeMismatch α :=
  .error ⟨type.shortName, value.kind⟩

/-- The mismatch of a narrow integer type with an integer beyond it. -/
def intOutOfRange {α : Type} (type : FieldType) : Except TypeMismatch α :=
  .error ⟨type.shortName, "out-of-range int"⟩

/-- The mismatch of single precision with a finite number beyond it. -/
def floatOutOfRange {α : Type} (type : FieldType) : Except TypeMismatch α :=
  .error ⟨type.shortName, "out-of-range float"⟩

/-- The content a value is converted to; only a null fits every optional type. -/
def ofValue : (type : FieldType) → Value → Except TypeMismatch type.Content
  | .bool, .bool given => .ok given
  | .int16, .int given =>
    if -0x8000 ≤ given.toInt ∧ given.toInt < 0x8000 then .ok given.toInt16 else intOutOfRange .int16
  | .int32, .int given =>
    if -0x80000000 ≤ given.toInt ∧ given.toInt < 0x80000000 then .ok given.toInt32
    else intOutOfRange .int32
  | .int64, .int given => .ok given
  | .float32, .float given =>
    if given.exceedsSingle then floatOutOfRange .float32 else .ok given.narrow
  | .float64, .float given => .ok given
  | .text, .text given => .ok given
  | .bytes, .bytes given => .ok given
  | .uuid, .uuid given => .ok given
  | .timestamp, .timestamp given => .ok given
  | .json, .json given => .ok given
  | .value, given => .ok given
  -- A null is absent at the outermost type, whatever is inside of it.
  | .optional _, .null => .ok none
  | .optional inner, given => (inner.ofValue given).map some
  | type, given => type.mismatch given

end FieldType

end RowQuery
