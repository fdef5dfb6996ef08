import RowQuery.Json.Basic
import RowQuery.Number.DecimalStyle
import RowQuery.Text.Hex

/-! The compact text of a JSON value. -/

namespace RowQuery

open Number Text

/-- Doubles are positional from five places behind the point up to sixteen before it. -/
def JsonNumber.style : DecimalStyle := ⟨-5, 15, true, fun lower => lower % 2 = 1⟩

/-- The text of a number. -/
def JsonNumber.text : JsonNumber → String
  | .integer value => toString value.val
  | .real value => JsonNumber.style.finiteText value.val

namespace Json

/-- A character inside a string: quotes, backslashes and controls are escaped. -/
def escapedChar (char : Char) : List Char :=
  match char with
  | '"' => ['\\', '"']
  | '\\' => ['\\', '\\']
  | '\x08' => ['\\', 'b']
  | '\x0c' => ['\\', 'f']
  | '\n' => ['\\', 'n']
  | '\r' => ['\\', 'r']
  | '\t' => ['\\', 't']
  | plain =>
    -- Controls without a short form are written by their number.
    if plain.toNat < 0x20 then
      ['\\', 'u', '0', '0', hexDigit (plain.toNat / 16), hexDigit (plain.toNat % 16)]
    else [plain]

/-- A string with its quotes. -/
def stringText (text : String) : List Char :=
  '"' :: text.toList.flatMap escapedChar ++ ['"']

mutual

/-- The characters of a value, without white space. -/
def chars : Json → List Char
  | .null => ['n', 'u', 'l', 'l']
  | .bool true => ['t', 'r', 'u', 'e']
  | .bool false => ['f', 'a', 'l', 's', 'e']
  | .number value => value.text.toList
  | .string text => stringText text
  | .array items => '[' :: itemChars items ++ [']']
  | .object members => '\x7b' :: memberChars members ++ ['\x7d']

/-- The items of an array, with commas between them. -/
def itemChars : List Json → List Char
  | [] => []
  | [item] => item.chars
  | item :: next :: rest => item.chars ++ ',' :: itemChars (next :: rest)

/-- The members of an object, with commas between them. -/
def memberChars : List (String × Json) → List Char
  | [] => []
  | [(key, value)] => stringText key ++ ':' :: value.chars
  | (key, value) :: next :: rest =>
    stringText key ++ ':' :: value.chars ++ ',' :: memberChars (next :: rest)

end

/-- The compact text of a value. -/
def text (json : Json) : String :=
  String.ofList json.chars

end Json

end RowQuery
