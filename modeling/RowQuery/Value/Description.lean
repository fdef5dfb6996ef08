import RowQuery.Json.Writer
import RowQuery.Number.DecimalStyle
import RowQuery.Text.Quoted
import RowQuery.Value.Basic

/-! The description of a value in reports: its kind followed by its content. -/

namespace RowQuery

open Number Text

/-- Doubles are positional from four places behind the point up to sixteen before it. -/
def Value.floatStyle : DecimalStyle := ⟨-4, 15, false, fun _ => true⟩

/-- A double, which may be infinite or not a number. -/
def Value.floatText (number : Binary64) : String :=
  if number.isNaN then "NaN"
  else if number.isFinite then Value.floatStyle.finiteText number
  else if number.isNegative then "-inf"
  else "inf"

/-- Texts in brackets, with commas between them. -/
def bracketed (items : List String) : String :=
  "[" ++ ", ".intercalate items ++ "]"

namespace Json

mutual

/-- The description of a value by its kind. -/
def description : Json → String
  | .null => "Null"
  | .bool value => "Bool(" ++ toString value ++ ")"
  | .number value => "Number(" ++ value.text ++ ")"
  | .string text => "String(" ++ quoted text ++ ")"
  | .array items => "Array " ++ bracketed (itemDescriptions items)
  | .object members => "Object \x7b" ++ ", ".intercalate (memberDescriptions members) ++ "\x7d"

/-- The descriptions of an array's items. -/
def itemDescriptions : List Json → List String
  | [] => []
  | item :: rest => item.description :: itemDescriptions rest

/-- The descriptions of an object's members. -/
def memberDescriptions : List (String × Json) → List String
  | [] => []
  | (key, value) :: rest => (quoted key ++ ": " ++ value.description) :: memberDescriptions rest

end

end Json

namespace Value

/-- The description of a value. -/
def description : Value → String
  | .null => "Null"
  | .bool value => "Bool(" ++ toString value ++ ")"
  | .int value => "Int(" ++ toString value.toInt ++ ")"
  | .float value => "Float(" ++ floatText value ++ ")"
  | .text value => "Text(" ++ quoted value ++ ")"
  | .bytes value => "Bytes(" ++ bracketed (value.map fun byte => toString byte.toNat) ++ ")"
  | .uuid value => "Uuid(" ++ value.text ++ ")"
  | .timestamp value => "Timestamp(" ++ value.text ++ ")"
  | .json value => "Json(" ++ value.val.description ++ ")"

/-- The description of a list of values. -/
def listDescription (values : List Value) : String :=
  bracketed (values.map description)

end Value

end RowQuery
