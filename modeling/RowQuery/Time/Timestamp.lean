import RowQuery.Text.Numeral
import RowQuery.Time.Calendar

/-! Moments in universal time with nanoseconds, and their text. -/

namespace RowQuery.Time

open Text

/-- The first second a timestamp can hold, at the start of the year -262143. -/
def firstSecond : Int := (Date.mk (-262143) 1 1).dayNumber * 86400

/-- The last second a timestamp can hold, at the end of the year 262142. -/
def lastSecond : Int := (Date.mk 262142 12 31).dayNumber * 86400 + 86399

/-- A moment: whole seconds since the start of 1970, and nanoseconds after that second. -/
structure Timestamp where
  seconds : Int
  /-- A leap second continues the count of the second before it, beyond a thousand million. -/
  nanoseconds : Nat
  inRange : firstSecond ≤ seconds ∧ seconds ≤ lastSecond
  fraction : nanoseconds < 2000000000
  deriving DecidableEq

namespace Timestamp

/-- The moment with the given parts, if it can be held. -/
def ofParts? (seconds : Int) (nanoseconds : Nat) : Option Timestamp :=
  if inRange : firstSecond ≤ seconds ∧ seconds ≤ lastSecond then
    if fraction : nanoseconds < 2000000000 then some ⟨seconds, nanoseconds, inRange, fraction⟩
    else none
  else none

/-- The start of 1970. -/
def epoch : Timestamp := ⟨0, 0, by decide, by decide⟩

/-- The digits of a fraction of a second: none, or the fewest of three, six and nine. -/
def fractionText (nanoseconds : Nat) : List Char :=
  if nanoseconds = 0 then []
  else if nanoseconds % 1000000 = 0 then '.' :: padded 3 (nanoseconds / 1000000)
  else if nanoseconds % 1000 = 0 then '.' :: padded 6 (nanoseconds / 1000)
  else '.' :: padded 9 nanoseconds

/-- Years of four digits stand alone; all others carry a sign. -/
def yearText (year : Int) : List Char :=
  if 0 ≤ year ∧ year ≤ 9999 then padded 4 year.toNat
  else (if year < 0 then '-' else '+') :: padded 4 year.natAbs

/-- Date, time and fraction with the mark of universal time. -/
def chars (timestamp : Timestamp) : List Char :=
  let date := Date.ofDayNumber (timestamp.seconds / 86400)
  let secondOfDay := (timestamp.seconds % 86400).toNat
  -- A leap second shows as the sixtieth.
  let second := secondOfDay % 60 + timestamp.nanoseconds / 1000000000
  yearText date.year ++ '-' :: padded 2 date.month ++ '-' :: padded 2 date.day ++
    'T' :: padded 2 (secondOfDay / 3600) ++ ':' :: padded 2 (secondOfDay / 60 % 60) ++
    ':' :: padded 2 second ++ fractionText (timestamp.nanoseconds % 1000000000) ++ ['Z']

/-- The text of a moment. -/
def text (timestamp : Timestamp) : String :=
  String.ofList timestamp.chars

end Timestamp

end RowQuery.Time
