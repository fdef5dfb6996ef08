import RowQuery.Time.Timestamp
import RowQuery.Unicode.Blank

/-! Reading moments: a date, a time and an offset, with blanks allowed between the parts. -/

namespace RowQuery.Time

open Text Unicode

/-- Reads one to `most` digits. -/
def digitsUpTo? (most : Nat) (text : List Char) : Option (List Char × List Char) :=
  let digits := (text.take most).takeWhile Char.isDigit
  if digits = [] then none else some (digits, text.drop digits.length)

/-- Reads a number of one or two digits within bounds, after any blanks. -/
def field? (least greatest : Nat) (text : List Char) : Option (Nat × List Char) := do
  let (digits, rest) ← digitsUpTo? 2 (dropBlank text)
  let number := digitsValue digits
  if least ≤ number ∧ number ≤ greatest then some (number, rest) else none

/-- Reads one expected character. -/
def expect? (expected : Char) : List Char → Option (List Char)
  | char :: rest => if char = expected then some rest else none
  | [] => none

/-- Reads a year: up to four digits, or any number of them after a sign. -/
def year? (text : List Char) : Option (Int × List Char) :=
  match dropBlank text with
  | '-' :: rest => (digitsUpTo? rest.length rest).map fun (digits, rest) =>
    (-(digitsValue digits : Int), rest)
  | '+' :: rest => (digitsUpTo? rest.length rest).map fun (digits, rest) =>
    ((digitsValue digits : Int), rest)
  | plain => (digitsUpTo? 4 plain).map fun (digits, rest) => ((digitsValue digits : Int), rest)

/-- Reads a date that exists. -/
def date? (text : List Char) : Option (Date × List Char) := do
  let (year, text) ← year? text
  let text ← expect? '-' (dropBlank text)
  let (month, text) ← field? 1 12 text
  let text ← expect? '-' (dropBlank text)
  let (day, text) ← field? 1 31 text
  -- Each part is in its range by now, but the month may be shorter.
  let date := Date.mk year month day
  if date.isValid then some (date, text) else none

/-- Reads an optional fraction of a second as nanoseconds; digits after the ninth are ignored. -/
def fraction? : List Char → Option (Nat × List Char)
  | '.' :: text => do
    let (digits, rest) ← digitsUpTo? 9 text
    some (digitsValue digits * Nat.pow 10 (9 - digits.length), rest.dropWhile Char.isDigit)
  | text => some (0, text)

/-- Reads a time of day as its second and the nanoseconds after it. -/
def timeOfDay? (text : List Char) : Option ((Nat × Nat) × List Char) := do
  let (hour, text) ← field? 0 23 text
  let text ← expect? ':' (dropBlank text)
  let (minute, text) ← field? 0 59 text
  let text ← expect? ':' (dropBlank text)
  let (second, text) ← field? 0 60 text
  let (nanoseconds, text) ← fraction? text
  let start := hour * 3600 + minute * 60
  -- The sixtieth second is a leap second, counted on from the one before it.
  if second = 60 then some ((start + 59, nanoseconds + 1000000000), text)
  else some ((start + second, nanoseconds), text)

/-- Reads two digits. -/
def twoDigits? : List Char → Option (Nat × List Char)
  | first :: second :: rest =>
    if first.isDigit && second.isDigit then some (digitsValue [first, second], rest) else none
  | _ => none

/-- Reads an offset from universal time, in seconds. -/
def offset? : List Char → Option (Int × List Char)
  | 'Z' :: rest | 'z' :: rest => some (0, rest)
  | sign :: text => do
    let direction : Int ←
      if sign = '+' then some 1
      else if sign = '-' || sign = '−' then some (-1)
      else none
    let (hours, text) ← twoDigits? text
    -- Between hours and minutes there may be a colon or blanks, or nothing.
    let text := text.dropWhile fun char => char = ':' || isBlank char
    let (minutes, text) ← twoDigits? text
    if minutes < 60 then some (direction * (hours * 3600 + minutes * 60 : Nat), text) else none
  | [] => none

/-- Reads an offset, which may also be named. -/
def zone? : List Char → Option (Int × List Char)
  | first :: second :: third :: rest =>
    if [first, second, third].map Char.toUpper = ['U', 'T', 'C'] then some (0, rest)
    else offset? (first :: second :: third :: rest)
  | text => offset? text

/-- Reads a moment and returns what follows it. -/
def moment? (text : List Char) : Option (Timestamp × List Char) := do
  let (date, text) ← date? text
  let text ← match text with
    | 'T' :: rest | 't' :: rest | ' ' :: rest => some rest
    | _ => none
  let ((second, nanoseconds), text) ← timeOfDay? text
  let (offset, text) ← zone? (dropBlank text)
  -- Only offsets of less than a day are known, and the local time has to be one that can be held.
  if offset.natAbs < 86400 then do
    let localTime := date.dayNumber * 86400 + second
    let _ ← Timestamp.ofParts? localTime nanoseconds
    let moment ← Timestamp.ofParts? (localTime - offset) nanoseconds
    some (moment, text)
  else none

/-- Reads a whole text that holds a moment, with blanks allowed around it. -/
def Timestamp.ofText? (text : String) : Option Timestamp := do
  let (moment, rest) ← moment? text.toList
  if dropBlank rest = [] then some moment else none

end RowQuery.Time
