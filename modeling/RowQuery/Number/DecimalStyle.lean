import RowQuery.Number.Shortest

/-! The decimal text of a double: where the point goes, and when an exponent is written instead. -/

namespace RowQuery.Number

/-- The choices that fix a decimal text. -/
structure DecimalStyle where
  /-- The least exponent of the leading digit that is written with a point. -/
  leastPositional : Int
  /-- The greatest exponent of the leading digit that is written with a point. -/
  greatestPositional : Int
  /-- Whether an exponent that is not negative carries a sign. -/
  plusSign : Bool
  /-- Whether the upper of two equally near shortest decimals is taken, given the lower one. -/
  tieUp : Nat → Bool

namespace DecimalStyle

/-- Digits with a point, and at least one digit on each side of it. -/
def positional (digits : List Char) (exponent : Int) : List Char :=
  let point : Int := digits.length + exponent
  if 0 ≤ exponent then digits ++ List.replicate exponent.toNat '0' ++ ['.', '0']
  else if 0 < point then digits.take point.toNat ++ '.' :: digits.drop point.toNat
  else '0' :: '.' :: List.replicate (-point).toNat '0' ++ digits

/-- Digits with the point after the first, followed by the exponent of the leading digit. -/
def scientific (plusSign : Bool) (digits : List Char) (leading : Int) : List Char :=
  let mantissa := match digits with
    | first :: second :: rest => first :: '.' :: second :: rest
    | short => short
  let sign := if leading < 0 then ['-'] else if plusSign then ['+'] else []
  mantissa ++ 'e' :: sign ++ Nat.toDigits 10 leading.natAbs

/-- The text of a finite double. -/
def finiteText (style : DecimalStyle) (number : Binary64) : String :=
  let sign := if number.isNegative then ['-'] else []
  if number.magnitude = 0 then String.ofList (sign ++ ['0', '.', '0'])
  else
    let decimal := shortest Format.binary64 style.tieUp number.magnitude
    let digits := Nat.toDigits 10 decimal.significand
    -- The exponent of the first digit decides between the two notations.
    let leading : Int := digits.length + decimal.exponent - 1
    let body :=
      if style.leastPositional ≤ leading && leading ≤ style.greatestPositional then
        positional digits decimal.exponent
      else scientific style.plusSign digits leading
    String.ofList (sign ++ body)

end DecimalStyle

end RowQuery.Number
