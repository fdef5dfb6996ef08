import RowQuery.Json.Numeral
import RowQuery.Text.Hex

/-! The shape of a JSON text, before numerals, strings and nesting depth are judged. -/

namespace RowQuery

open Text

/-- A JSON text by its shape; a string is none where its escapes do not spell characters. -/
inductive JsonNode where
  | null
  | bool (value : Bool)
  | number (numeral : JsonNumeral)
  | string (text : Option String)
  | array (items : List JsonNode)
  | object (members : List (Option String × JsonNode))

namespace JsonNode

/-- Drops leading white space. -/
def skipSpace (text : List Char) : List Char :=
  text.dropWhile fun char => char = ' ' || char = '\n' || char = '\t' || char = '\r'

/-- What a string is written with: a plain character, or a code unit in hexadecimal. -/
inductive StringPiece where
  | char (value : Char)
  | unit (value : Nat)
  deriving DecidableEq, Repr

/-- Reads the four digits of a code unit. -/
def codeUnit? (first second third fourth : Char) : Option Nat := do
  let first ← hexValue? first
  let second ← hexValue? second
  let third ← hexValue? third
  let fourth ← hexValue? fourth
  some (4096 * first + 256 * second + 16 * third + fourth)

/-- The character an escape of one letter stands for. -/
def shortEscape? : Char → Option Char
  | '"' => some '"'
  | '\\' => some '\\'
  | '/' => some '/'
  | 'b' => some '\x08'
  | 'f' => some '\x0c'
  | 'n' => some '\n'
  | 'r' => some '\r'
  | 't' => some '\t'
  | _ => none

/-- Reads the pieces of a string up to its closing quote, and returns what follows. -/
def stringPieces? : List Char → Option (List StringPiece × List Char)
  | '"' :: rest => some ([], rest)
  | '\\' :: 'u' :: first :: second :: third :: fourth :: rest => do
    let unit ← codeUnit? first second third fourth
    let (pieces, rest) ← stringPieces? rest
    some (.unit unit :: pieces, rest)
  | '\\' :: letter :: rest => do
    let char ← shortEscape? letter
    let (pieces, rest) ← stringPieces? rest
    some (.char char :: pieces, rest)
  | char :: rest =>
    -- Controls must be escaped, and a lone backslash escapes nothing.
    if char.toNat < 0x20 || char = '\\' then none
    else do
      let (pieces, rest) ← stringPieces? rest
      some (.char char :: pieces, rest)
  | [] => none

/-- Whether a code unit is the first half of a pair. -/
def isHighSurrogate (unit : Nat) : Bool := 0xD800 ≤ unit && unit < 0xDC00

/-- Whether a code unit is the second half of a pair. -/
def isLowSurrogate (unit : Nat) : Bool := 0xDC00 ≤ unit && unit < 0xE000

/-- The characters that pieces spell; none if a half of a pair stands alone. -/
def charsOfPieces? : List StringPiece → Option (List Char)
  | [] => some []
  | .char char :: rest => (charsOfPieces? rest).map (char :: ·)
  | .unit high :: .unit low :: rest =>
    -- Two units in a row may be a pair, or each a character of its own.
    if isHighSurrogate high then
      if isLowSurrogate low then
        let code := 0x10000 + (high - 0xD800) * 0x400 + (low - 0xDC00)
        (charsOfPieces? rest).map (Char.ofNat code :: ·)
      else none
    else if isLowSurrogate high then none
    else (charsOfPieces? (.unit low :: rest)).map (Char.ofNat high :: ·)
  | .unit unit :: rest =>
    if isHighSurrogate unit || isLowSurrogate unit then none
    else (charsOfPieces? rest).map (Char.ofNat unit :: ·)

/-- Reads a string whose opening quote has been read. -/
def string? (text : List Char) : Option (Option String × List Char) := do
  let (pieces, rest) ← stringPieces? text
  some ((charsOfPieces? pieces).map String.ofList, rest)

/-- Splits off the leading decimal digits. -/
def spanDigits (text : List Char) : List Char × List Char :=
  (text.takeWhile Char.isDigit, text.dropWhile Char.isDigit)

/-- Reads the digits of an exponent whose letter has been read. -/
def exponent? (text : List Char) : Option ((Bool × List Char) × List Char) :=
  let (below, text) := match text with
    | '+' :: rest => (false, rest)
    | '-' :: rest => (true, rest)
    | plain => (false, plain)
  match spanDigits text with
  | ([], _) => none
  | (digits, rest) => some ((below, digits), rest)

/-- Reads a numeral: no needless zero in front, and digits on both sides of a point. -/
def numeral? (text : List Char) : Option (JsonNumeral × List Char) := do
  let (negative, text) := match text with
    | '-' :: rest => (true, rest)
    | plain => (false, plain)
  let (whole, text) := spanDigits text
  let whole ← match whole with
    | [] => none
    | ['0'] => some ['0']
    -- A zero in front of other digits is needless.
    | '0' :: _ => none
    | digits => some digits
  let (fraction, text) ← match text with
    | '.' :: rest =>
      match spanDigits rest with
      | ([], _) => none
      | parts => some parts
    | plain => some ([], plain)
  match text with
  | 'e' :: rest | 'E' :: rest =>
    let (exponent, rest) ← exponent? rest
    some (⟨negative, whole, fraction, some exponent⟩, rest)
  | rest => some (⟨negative, whole, fraction, none⟩, rest)

mutual

/-- Reads one value and returns what follows it. -/
def read? : Nat → List Char → Option (JsonNode × List Char)
  | 0, _ => none
  | fuel + 1, text =>
    match skipSpace text with
    | 'n' :: 'u' :: 'l' :: 'l' :: rest => some (.null, rest)
    | 't' :: 'r' :: 'u' :: 'e' :: rest => some (.bool true, rest)
    | 'f' :: 'a' :: 'l' :: 's' :: 'e' :: rest => some (.bool false, rest)
    | '"' :: rest => (string? rest).map fun (text, rest) => (.string text, rest)
    | '[' :: rest =>
      -- A closing bracket is only looked for here: behind a comma an item has to follow.
      match skipSpace rest with
      | ']' :: rest => some (.array [], rest)
      | inner => (readItems? fuel inner).map fun (items, rest) => (.array items, rest)
    | '\x7b' :: rest =>
      match skipSpace rest with
      | '\x7d' :: rest => some (.object [], rest)
      | inner => (readMembers? fuel inner).map fun (members, rest) => (.object members, rest)
    | other => (numeral? other).map fun (numeral, rest) => (.number numeral, rest)

/-- Reads the items of an array up to its closing bracket. -/
def readItems? : Nat → List Char → Option (List JsonNode × List Char)
  | 0, _ => none
  | fuel + 1, text =>
    match read? fuel text with
    | none => none
    | some (item, rest) =>
      match skipSpace rest with
      | ',' :: rest => (readItems? fuel rest).map fun (items, rest) => (item :: items, rest)
      | ']' :: rest => some ([item], rest)
      | _ => none

/-- Reads the members of an object up to its closing brace. -/
def readMembers? : Nat → List Char → Option (List (Option String × JsonNode) × List Char)
  | 0, _ => none
  | fuel + 1, text =>
    match skipSpace text with
    | '"' :: rest =>
      match string? rest with
      | none => none
      | some (key, rest) =>
        match skipSpace rest with
        | ':' :: rest =>
          match read? fuel rest with
          | none => none
          | some (value, rest) =>
            match skipSpace rest with
            | ',' :: rest =>
              (readMembers? fuel rest).map fun (members, rest) => ((key, value) :: members, rest)
            | '\x7d' :: rest => some ([(key, value)], rest)
            | _ => none
        | _ => none
    | _ => none

end

/-- Reads a whole text that holds one value and white space around it. -/
def ofText? (text : String) : Option JsonNode :=
  -- Each level of nesting takes two steps and at least one character.
  match read? (2 * text.toList.length + 2) text.toList with
  | some (node, rest) => if skipSpace rest = [] then some node else none
  | none => none

mutual

/-- The value of a text that nests at most the given number of levels. -/
def toJson? : Nat → JsonNode → Option Json
  | _, .null => some .null
  | _, .bool value => some (.bool value)
  | _, .number numeral => numeral.toNumber?.map .number
  | _, .string text => text.map .string
  -- An array or an object takes a level, and with none left it is refused even if it is empty.
  | 0, .array _ => none
  | levels + 1, .array items => (itemsToJson? levels items).map .array
  | 0, .object _ => none
  | levels + 1, .object members => (membersToJson? levels members).map .object

/-- The values of an array's items. -/
def itemsToJson? : Nat → List JsonNode → Option (List Json)
  | _, [] => some []
  | levels, item :: rest => do
    let value ← toJson? levels item
    let values ← itemsToJson? levels rest
    some (value :: values)

/-- The values of an object's members. -/
def membersToJson? : Nat → List (Option String × JsonNode) → Option (List (String × Json))
  | _, [] => some []
  | levels, (key, member) :: rest => do
    let key ← key
    let value ← toJson? levels member
    let values ← membersToJson? levels rest
    some ((key, value) :: values)

end

end JsonNode

/-- The number of levels a JSON text may nest. -/
def Json.nestingLimit : Nat := 127

/-- Reads a JSON text that nests at most the given number of levels. -/
def Json.ofText? (levels : Nat) (text : String) : Option Json := do
  let node ← JsonNode.ofText? text
  node.toJson? levels

end RowQuery
