import RowQuery.Json.Ordered
import RowQuery.Time.Timestamp
import RowQuery.Uuid

/-! The values that statements bind and rows hold. -/

namespace RowQuery

open Number Time

/-- A value of one of the kinds a database column can have. -/
inductive Value where
  | null
  | bool (value : Bool)
  | int (value : Int64)
  | float (value : Binary64)
  | text (value : String)
  | bytes (value : List UInt8)
  | uuid (value : Uuid)
  | timestamp (value : Timestamp)
  | json (value : Json.Ordered)

namespace Value

/-- The name of a value's kind. -/
def kind : Value → String
  | .null => "null"
  | .bool _ => "bool"
  | .int _ => "int"
  | .float _ => "float"
  | .text _ => "text"
  | .bytes _ => "bytes"
  | .uuid _ => "uuid"
  | .timestamp _ => "timestamp"
  | .json _ => "json"

/-- Whether a value is the absence of one. -/
def isNull : Value → Bool
  | .null => true
  | _ => false

/-- Equality within a kind; floats compare as numbers, so that a NaN differs from itself. -/
def equals : Value → Value → Bool
  | .null, .null => true
  | .bool left, .bool right => left == right
  | .int left, .int right => left == right
  | .float left, .float right => left == right
  | .text left, .text right => left == right
  | .bytes left, .bytes right => left == right
  | .uuid left, .uuid right => left == right
  | .timestamp left, .timestamp right => left == right
  | .json left, .json right => left.val == right.val
  | _, _ => false

instance : BEq Value := ⟨equals⟩

end Value

end RowQuery
