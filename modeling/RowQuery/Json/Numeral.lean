import RowQuery.Json.Basic
import RowQuery.Text.Numeral

/-! JSON numerals and the numbers they are read as. -/

namespace RowQuery

open Number Text

/-- The parts of a numeral: sign, digits before and after the point, and exponent. -/
structure JsonNumeral where
  negative : Bool
  whole : List Char
  fraction : List Char
  /-- Whether the exponent is negative, and its digits. -/
  exponent : Option (Bool × List Char)
  deriving DecidableEq, Repr

namespace JsonNumeral

/-- Appends digits to a significand while it stays within 64 bits, and counts those appended. -/
def absorb (significand : Nat) : List Char → Nat × Nat
  | [] => (significand, 0)
  | digit :: rest =>
    let extended := 10 * significand + digitValue digit
    if extended < 0x10000000000000000 then
      let (final, count) := absorb extended rest
      (final, count + 1)
    -- The digit that does not fit ends it; those behind are not looked at.
    else (significand, 0)

/-- The double of a power of ten that has one. -/
def powerOfTen (exponent : Nat) : Nat :=
  Format.binary64.nearest (Nat.pow 10 exponent) 1

/-- The rounded product of two finite magnitudes. -/
def product (left right : Nat) : Nat :=
  Format.binary64.nearest (Format.binary64.units left * Format.binary64.units right)
    (1 <<< (2 * Format.binary64.unitExponent))

/-- The rounded quotient of two finite magnitudes. -/
def quotient (left right : Nat) : Nat :=
  Format.binary64.nearest (Format.binary64.units left) (Format.binary64.units right)

/-- Scales a magnitude by a power of ten, rounding after every 308 places; none on overflow. -/
def scale (steps : Nat) (magnitude : Nat) (exponent : Int) : Option Nat :=
  if exponent.natAbs ≤ 308 then
    if 0 ≤ exponent then
      (some (product magnitude (powerOfTen exponent.natAbs))).filter (· < Format.binary64.infinity)
    else some (quotient magnitude (powerOfTen exponent.natAbs))
  else if magnitude = 0 then some 0
  else if 0 ≤ exponent then none
  else
    match steps with
    -- Three divisions by the largest power take every 64-bit significand to zero.
    | 0 => some 0
    | steps + 1 => scale steps (quotient magnitude (powerOfTen 308)) (exponent + 308)

/-- The double a significand and a decimal exponent stand for; none on overflow. -/
def double? (negative : Bool) (significand : Nat) (exponent : Int) : Option JsonReal := do
  let magnitude ← scale 3 (Format.binary64.nearest significand 1) exponent
  JsonReal.ofDouble? (Binary64.ofMagnitude negative magnitude)

/-- The numeral as a double: digits beyond a 64-bit significand count only by their place. -/
def toDouble? (numeral : JsonNumeral) : Option JsonReal :=
  let (wholePart, taken) := absorb 0 numeral.whole
  let (significand, places) := absorb wholePart numeral.fraction
  let shift : Int := (numeral.whole.length - taken : Nat) - (places : Int)
  match numeral.exponent with
  | none => double? numeral.negative significand shift
  | some (below, digits) =>
    let exponent := digitsValue digits
    if 0x80000000 ≤ exponent then
      -- Such an exponent leaves nothing, or goes beyond every double.
      if significand ≠ 0 ∧ !below then none
      else JsonReal.ofDouble? (Binary64.ofMagnitude numeral.negative 0)
    else double? numeral.negative significand (if below then shift - exponent else shift + exponent)

/-- The number a numeral is read as: an integer if it is written as one and fits, else a double. -/
def toNumber? (numeral : JsonNumeral) : Option JsonNumber :=
  let value := digitsValue numeral.whole
  if numeral.fraction = [] ∧ numeral.exponent = none ∧ value < 0x10000000000000000 then
    if numeral.negative then
      -- Negative zero is not an integer.
      if fits : 0 < value ∧ value ≤ 0x8000000000000000 then
        some (.integer ⟨-(value : Int), by omega, by omega⟩)
      else
        (JsonReal.ofDouble? (Binary64.ofMagnitude true (Format.binary64.nearest value 1))).map .real
    else if fits : value < 0x10000000000000000 then
      some (.integer ⟨value, by omega, by omega⟩)
    else none
  else numeral.toDouble?.map .real

end JsonNumeral

end RowQuery
