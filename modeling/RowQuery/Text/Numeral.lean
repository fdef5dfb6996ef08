/-! Unsigned decimal numerals. -/

namespace RowQuery.Text

/-- The value of a decimal digit. -/
def digitValue (digit : Char) : Nat :=
  digit.toNat - 48

/-- The value of a row of decimal digits. -/
def digitsValue (digits : List Char) : Nat :=
  digits.foldl (fun value digit => 10 * value + digitValue digit) 0

/-- Reads a whole text of one or more digits, with one plus sign allowed in front. -/
def natural? (text : List Char) : Option Nat :=
  let digits := match text with
    | '+' :: rest => rest
    | plain => plain
  if digits ≠ [] ∧ digits.all Char.isDigit then some (digitsValue digits) else none

/-- Reads a natural number that is below a bound. -/
def naturalBelow? (bound : Nat) (text : List Char) : Option Nat :=
  (natural? text).filter (· < bound)

/-- Reads an integer with an optional sign; it is below the bound, and not below its negative. -/
def integerBelow? (bound : Nat) : List Char → Option Int
  | '-' :: digits =>
    if digits ≠ [] ∧ digits.all Char.isDigit ∧ digitsValue digits ≤ bound then
      some (-(digitsValue digits : Int))
    else none
  | text => (naturalBelow? bound text).map Int.ofNat

/-- A number in decimal, with zeros in front up to the given width. -/
def padded (width number : Nat) : List Char :=
  let digits := Nat.toDigits 10 number
  List.replicate (width - digits.length) '0' ++ digits

end RowQuery.Text
