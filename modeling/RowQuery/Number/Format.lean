/-! Binary floating point formats, their exact magnitudes, and rounding to the nearest of them. -/

namespace RowQuery.Number

/-- The quotient rounded to the nearest natural number, a half going to the even neighbour. -/
def roundHalfEven (numerator denominator : Nat) : Nat :=
  let quotient := numerator / denominator
  let twice := 2 * (numerator % denominator)
  if twice < denominator then quotient
  else if denominator < twice then quotient + 1
  else quotient + quotient % 2

/-- A binary format, given by the widths of its stored fraction and of its exponent field. -/
structure Format where
  fractionBits : Nat
  exponentBits : Nat
  deriving DecidableEq, Repr

namespace Format

/-- The format with a 32-bit word. -/
def binary32 : Format := ⟨23, 8⟩

/-- The format with a 64-bit word. -/
def binary64 : Format := ⟨52, 11⟩

/-- The first word, sign aside, that is no finite magnitude: it stands for infinity. -/
def infinity (format : Format) : Nat :=
  ((1 <<< format.exponentBits) - 1) <<< format.fractionBits

/-- The sign bit's place value, one above every magnitude. -/
def signBit (format : Format) : Nat :=
  1 <<< (format.fractionBits + format.exponentBits)

/-- The smallest positive magnitude is one over two to this power. -/
def unitExponent (format : Format) : Nat :=
  (1 <<< (format.exponentBits - 1)) - 2 + format.fractionBits

/-- The significand of a finite magnitude, with the leading bit that normal words leave out. -/
def significand (format : Format) (word : Nat) : Nat :=
  let leading := 1 <<< format.fractionBits
  if word < leading then word else leading + word % leading

/-- How often a finite magnitude's significand is doubled, counted in smallest units. -/
def doublings (format : Format) (word : Nat) : Nat :=
  -- Subnormal words and the first normal exponent both count single units.
  (word >>> format.fractionBits) - 1

/-- A finite magnitude as a multiple of the smallest unit. -/
def units (format : Format) (word : Nat) : Nat :=
  format.significand word <<< format.doublings word

/-- The word of the finite magnitude or infinity nearest to a quotient; ties go to the even word. -/
def nearest (format : Format) (numerator denominator : Nat) : Nat :=
  let numerator := numerator <<< format.unitExponent
  -- The binade of the exact quotient fixes the spacing of its neighbours.
  let doublings := (numerator / denominator).log2 - format.fractionBits
  let significand := roundHalfEven numerator (denominator <<< doublings)
  -- A significand that rounds up into the next binade carries into the exponent field.
  min ((doublings <<< format.fractionBits) + significand) format.infinity

end Format

end RowQuery.Number
