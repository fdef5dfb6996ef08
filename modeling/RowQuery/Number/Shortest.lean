import RowQuery.Number.Binary64

/-! The fewest decimal digits that read back as a given double. -/

namespace RowQuery.Number

/-- The number `significand * 10 ^ exponent`. -/
structure Decimal where
  significand : Nat
  exponent : Int
  deriving DecidableEq, Repr

namespace Decimal

/-- The number of decimal digits of a natural number, none for zero. -/
def digitCount (number : Nat) : Nat :=
  if number = 0 then 0 else (Nat.toDigits 10 number).length

/-- Moves the zeros at the end of the significand into the exponent. -/
def dropZeros (fuel : Nat) (decimal : Decimal) : Decimal :=
  match fuel with
  | 0 => decimal
  | fuel + 1 =>
    if decimal.significand % 10 = 0 then
      dropZeros fuel ⟨decimal.significand / 10, decimal.exponent + 1⟩
    else decimal

end Decimal

/-- The numbers that round to one magnitude, over a common denominator. -/
structure RoundingInterval where
  lower : Nat
  centre : Nat
  upper : Nat
  denominator : Nat
  /-- Whether the two ends belong to the interval. -/
  closed : Bool
  deriving Repr

namespace RoundingInterval

/-- The interval of a positive finite magnitude. -/
def ofMagnitude (format : Format) (word : Nat) : RoundingInterval :=
  let significand := format.significand word
  let gap := 1 <<< format.doublings word
  -- Below a power of two the neighbours are half as far apart.
  let gapBelow :=
    if significand = 1 <<< format.fractionBits && 0 < format.doublings word then gap / 2 else gap
  { lower := 4 * (significand * gap) - 2 * gapBelow
    centre := 4 * (significand * gap)
    upper := 4 * (significand * gap) + 2 * gap
    denominator := 4 <<< format.unitExponent
    -- Ties go to the even word, so an even magnitude owns both of its ends.
    closed := significand % 2 = 0 }

/-- The interval measured in units of a power of ten. -/
def inPowersOfTen (interval : RoundingInterval) (exponent : Int) : RoundingInterval :=
  -- Of the two powers one is always one, by the sign of the exponent.
  let up := Nat.pow 10 (-exponent).toNat
  { interval with
    lower := interval.lower * up
    centre := interval.centre * up
    upper := interval.upper * up
    denominator := interval.denominator * Nat.pow 10 exponent.toNat }

/-- Whether an integer lies in the interval. -/
def contains (interval : RoundingInterval) (integer : Nat) : Bool :=
  let scaled := integer * interval.denominator
  if interval.closed then interval.lower ≤ scaled && scaled ≤ interval.upper
  else interval.lower < scaled && scaled < interval.upper

/-- The integer in the interval nearest to its centre; `tieUp` decides between two equally near. -/
def nearestInteger? (interval : RoundingInterval) (tieUp : Nat → Bool) : Option Nat :=
  let below := interval.centre / interval.denominator
  let distance := interval.centre % interval.denominator
  -- No other integers are nearer to the centre than those on both sides of it.
  match interval.contains below, interval.contains (below + 1) with
  | true, true =>
    if 2 * distance < interval.denominator then some below
    else if interval.denominator < 2 * distance then some (below + 1)
    else some (if tieUp below then below + 1 else below)
  | true, false => some below
  | false, true => some (below + 1)
  | false, false => none

/-- The power of ten above the centre: ten to it exceeds the centre, ten to one less does not. -/
def decimalOrder (interval : RoundingInterval) : Int :=
  let whole := interval.centre / interval.denominator
  if whole ≠ 0 then Decimal.digitCount whole
  else
    -- The least factor that lifts the centre to one or more counts the zeros behind the point.
    let lift := (interval.denominator + interval.centre - 1) / interval.centre
    1 - (Decimal.digitCount (lift - 1) : Int)

end RoundingInterval

/-- The shortest decimal that rounds to a positive finite magnitude, and of those the nearest. -/
def shortest (format : Format) (tieUp : Nat → Bool) (word : Nat) : Decimal :=
  let interval := RoundingInterval.ofMagnitude format word
  let order := interval.decimalOrder
  -- Seventeen significant digits tell any two doubles apart.
  let found := (List.range 17).findSome? fun (extra : Nat) =>
    let exponent := order - 1 - extra
    ((interval.inPowersOfTen exponent).nearestInteger? tieUp).map fun digits =>
      Decimal.mk digits exponent
  (found.getD ⟨0, 0⟩).dropZeros 17

end RowQuery.Number
