import RowQuery.Text.Hex

/-! Universally unique identifiers and their text. -/

namespace RowQuery

open Text

/-- An identifier of sixteen bytes. -/
structure Uuid where
  bytes : List UInt8
  size : bytes.length = 16
  deriving DecidableEq

namespace Uuid

/-- The identifier with the given bytes, if there are sixteen. -/
def ofBytes? (bytes : List UInt8) : Option Uuid :=
  if size : bytes.length = 16 then some ⟨bytes, size⟩ else none

/-- The identifier whose bytes are all zero. -/
def nil : Uuid := ⟨List.replicate 16 0, by decide⟩

/-- Puts hyphens after 8, 12, 16 and 20 digits. -/
def hyphenate (digits : List Char) : List Char :=
  digits.take 8 ++ '-' :: (digits.drop 8).take 4 ++ '-' :: (digits.drop 12).take 4 ++
    '-' :: (digits.drop 16).take 4 ++ '-' :: digits.drop 20

/-- The lowercase hyphenated text. -/
def text (uuid : Uuid) : String :=
  String.ofList (hyphenate (hexOfBytes uuid.bytes))

/-- Takes the hyphens out of a text that has them exactly where they belong. -/
def dehyphenate? (text : List Char) : Option (List Char) :=
  let digits := text.filter (· ≠ '-')
  if digits.length = 32 ∧ hyphenate digits = text then some digits else none

/-- Finds the digits: plain, hyphenated, hyphenated in braces, or hyphenated as a resource name. -/
def digits? (text : List Char) : Option (List Char) :=
  match text.length with
  | 32 => some text
  | 36 => dehyphenate? text
  | 38 =>
    if text.take 1 = ['\x7b'] ∧ text.drop 37 = ['\x7d'] then dehyphenate? ((text.drop 1).take 36)
    else none
  | 45 =>
    -- The scheme and the namespace of a resource name are written in either case.
    if (text.take 9).map Char.toLower = "urn:uuid:".toList then dehyphenate? (text.drop 9) else none
  | _ => none

/-- Reads an identifier, in digits of either case. -/
def ofText? (text : String) : Option Uuid := do
  let digits ← digits? text.toList
  let bytes ← bytesOfHex? digits
  ofBytes? bytes

end Uuid

end RowQuery
