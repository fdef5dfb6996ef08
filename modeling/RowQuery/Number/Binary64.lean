import RowQuery.Number.Format

/-! Double and single precision numbers as their words, with comparison and exact conversions. -/

namespace RowQuery.Number

/-- A double precision number, kept as its word so that signed zeros and every NaN stay distinct. -/
structure Binary64 where
  word : UInt64
  deriving DecidableEq, Repr

/-- A single precision number, kept as its word. -/
structure Binary32 where
  word : UInt32
  deriving DecidableEq, Repr

namespace Binary32

/-- The word without its sign. -/
def magnitude (number : Binary32) : Nat :=
  number.word.toNat % Format.binary32.signBit

/-- Whether the sign bit is set. -/
def isNegative (number : Binary32) : Bool :=
  Format.binary32.signBit ≤ number.word.toNat

/-- Whether the number is a NaN. -/
def isNaN (number : Binary32) : Bool :=
  Format.binary32.infinity < number.magnitude

/-- The number with a given sign and magnitude word. -/
def ofMagnitude (negative : Bool) (magnitude : Nat) : Binary32 :=
  ⟨UInt32.ofNat (if negative then Format.binary32.signBit + magnitude else magnitude)⟩

/-- The quiet NaN. -/
def nan : Binary32 := ⟨0x7FC00000⟩

end Binary32

namespace Binary64

/-- The word without its sign. -/
def magnitude (number : Binary64) : Nat :=
  number.word.toNat % Format.binary64.signBit

/-- Whether the sign bit is set. -/
def isNegative (number : Binary64) : Bool :=
  Format.binary64.signBit ≤ number.word.toNat

/-- Whether the number is neither infinite nor a NaN. -/
def isFinite (number : Binary64) : Bool :=
  number.magnitude < Format.binary64.infinity

/-- Whether the number is a NaN. -/
def isNaN (number : Binary64) : Bool :=
  Format.binary64.infinity < number.magnitude

/-- The number with a given sign and magnitude word. -/
def ofMagnitude (negative : Bool) (magnitude : Nat) : Binary64 :=
  ⟨UInt64.ofNat (if negative then Format.binary64.signBit + magnitude else magnitude)⟩

/-- The quiet NaN. -/
def nan : Binary64 := ⟨0x7FF8000000000000⟩

/-- Positive zero. -/
def zero : Binary64 := ⟨0⟩

/-- Comparison for equality: a NaN equals nothing, and the two zeros are equal. -/
def equals (left right : Binary64) : Bool :=
  !left.isNaN && !right.isNaN &&
    (left.word == right.word || (left.magnitude == 0 && right.magnitude == 0))

instance : BEq Binary64 := ⟨equals⟩

/-- The integer rounded to the nearest double. -/
def ofInt (integer : Int) : Binary64 :=
  ofMagnitude (integer < 0) (Format.binary64.nearest integer.natAbs 1)

/-- The largest finite single precision number, widened. -/
def largestSingle : Nat := 0x47EFFFFFE0000000

/-- Whether a finite number lies beyond the finite single precision numbers. -/
def exceedsSingle (number : Binary64) : Bool :=
  number.isFinite && largestSingle < number.magnitude

/-- The nearest single precision number, with overflow to infinity. -/
def narrow (number : Binary64) : Binary32 :=
  if number.isNaN then Binary32.nan
  else if number.isFinite then
    -- A finite number is its units over a power of two, a quotient that is rounded only once.
    let units := Format.binary64.units number.magnitude
    let word := Format.binary32.nearest units (1 <<< Format.binary64.unitExponent)
    .ofMagnitude number.isNegative word
  else .ofMagnitude number.isNegative Format.binary32.infinity

end Binary64

/-- The same number in double precision. -/
def Binary32.widen (number : Binary32) : Binary64 :=
  if number.isNaN then Binary64.nan
  else if number.magnitude = Format.binary32.infinity then
    .ofMagnitude number.isNegative Format.binary64.infinity
  else
    -- The quotient is a number of double precision, so rounding leaves it as it is.
    let units := Format.binary32.units number.magnitude
    let word := Format.binary64.nearest units (1 <<< Format.binary32.unitExponent)
    .ofMagnitude number.isNegative word

end RowQuery.Number
