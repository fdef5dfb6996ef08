import RowQuery.Proofs.Number.Precision

/-!
Numbers that are rounded to infinity. A format has room for everything below the middle between its
largest finite number and the next power of two; from there on rounding overflows. A double that is
not beyond single precision is narrowed to a finite number, and one that is may still be.
-/

namespace RowQuery.Number

/-- Rounding goes up by one exactly behind the middle, and from the middle if the quotient is
odd. -/
theorem roundHalfEven_eq (numerator denominator : Nat) :
    roundHalfEven numerator denominator = numerator / denominator +
      if denominator < 2 * (numerator % denominator) ∨
          2 * (numerator % denominator) = denominator ∧ numerator / denominator % 2 = 1
        then 1 else 0 := by
  unfold roundHalfEven
  simp only
  -- The remainder is compared with the half of the denominator.
  rcases Nat.lt_trichotomy (2 * (numerator % denominator)) denominator with down | tie | up
  · rw [if_pos down, if_neg (by omega)]
    rfl
  · rw [if_neg (by omega), if_neg (by omega)]
    split <;> omega
  · rw [if_neg (by omega), if_pos up, if_pos (.inl up)]

/-- Rounding takes the quotient or the next number. -/
theorem bounds_roundHalfEven (numerator denominator : Nat) :
    numerator / denominator ≤ roundHalfEven numerator denominator ∧
      roundHalfEven numerator denominator ≤ numerator / denominator + 1 := by
  rw [roundHalfEven_eq]
  split <;> omega

/-- Rounding reaches an even number from half a unit below it on. -/
theorem le_roundHalfEven_iff {numerator denominator half : Nat} (positive : 0 < denominator) :
    2 * half ≤ roundHalfEven numerator denominator ↔
      2 * (2 * half) * denominator ≤ 2 * numerator + denominator := by
  have division := Nat.div_add_mod numerator denominator
  have remainder := Nat.mod_lt numerator positive
  rw [roundHalfEven_eq]
  generalize numerator / denominator = quotient at division
  generalize numerator % denominator = rest at division remainder
  subst division
  have twice : 2 * (2 * half) * denominator = 2 * (denominator * (2 * half)) := by ring
  rw [twice]
  -- The quotient reaches the number, or it is one less, or it is less by two at least.
  rcases Nat.lt_trichotomy (quotient + 1) (2 * half) with far | next | reached
  · have distance : denominator * (quotient + 2) ≤ denominator * (2 * half) :=
      Nat.mul_le_mul_left _ far
    rw [Nat.mul_add] at distance
    split <;> omega
  · -- The quotient is odd, so that a tie goes up.
    rw [← next, Nat.mul_add]
    split <;> omega
  · have distance : denominator * (2 * half) ≤ denominator * quotient :=
      Nat.mul_le_mul_left _ (Nat.le_of_lt_succ reached)
    split <;> omega

namespace Format

/-- A quotient is rounded to infinity exactly from the middle between the largest finite number and
the next power of two on. -/
theorem nearest_eq_infinity_iff {format : Format} {top numerator denominator : Nat}
    (range : format.infinity = (top + 2) * 2 ^ format.fractionBits) (positive : 0 < denominator) :
    format.nearest numerator denominator = format.infinity ↔
      2 * (2 * 2 ^ format.fractionBits) * (denominator * 2 ^ top) ≤
        2 * (numerator * 2 ^ format.unitExponent) + denominator * 2 ^ top := by
  unfold nearest
  simp only [Nat.shiftLeft_eq, range]
  generalize numerator * 2 ^ format.unitExponent = scaled
  rw [← scale, min_eq_right_iff]
  have leading := Nat.two_pow_pos format.fractionBits
  obtain ⟨short, full⟩ := bounds_div_scale format (scaled / denominator)
  generalize format.scale (scaled / denominator) = count at short full
  -- The significand before rounding is what is left of the quotient without its doublings.
  rw [Nat.div_div_eq_div_mul] at short full
  have spacing : 0 < denominator * 2 ^ count := Nat.mul_pos positive (Nat.two_pow_pos count)
  rw [Nat.pow_succ, Nat.div_lt_iff_lt_mul spacing] at short
  generalize 2 ^ format.fractionBits = unit at short full leading
  rcases Nat.lt_trichotomy count top with below | rfl | above
  · -- In a lower binade even a significand that carries stays below infinity.
    have bound : roundHalfEven scaled (denominator * 2 ^ count) ≤ unit * 2 :=
      Nat.le_trans (bounds_roundHalfEven _ _).2 ((Nat.div_lt_iff_lt_mul spacing).mpr short)
    have binade : (count + 1) * unit ≤ top * unit := Nat.mul_le_mul_right _ below
    have wider : denominator * 2 ^ count * 2 ≤ denominator * 2 ^ top := by
      rw [Nat.mul_assoc, ← Nat.pow_succ]
      exact Nat.mul_le_mul_left _ (Nat.pow_le_pow_right (by decide) below)
    have most : unit * (denominator * 2 ^ count * 2) ≤ unit * (denominator * 2 ^ top) :=
      Nat.mul_le_mul_left _ wider
    have once : 1 * (denominator * 2 ^ top) ≤ unit * (denominator * 2 ^ top) :=
      Nat.mul_le_mul_right _ leading
    refine iff_of_false ?_ ?_
    · rw [Nat.add_mul] at binade ⊢
      omega
    · have left : 2 * (2 * unit) * (denominator * 2 ^ top) =
          4 * (unit * (denominator * 2 ^ top)) := by ring
      have right : unit * 2 * (denominator * 2 ^ count) =
          unit * (denominator * 2 ^ count * 2) := by ring
      omega
  · -- In the last binade the significand decides, and infinity is where it would carry.
    rw [← le_roundHalfEven_iff spacing, Nat.add_mul, Nat.add_le_add_iff_left]
  · -- Beyond the last binade every significand is full, and that is enough.
    have enough := full (by omega)
    have bound : unit ≤ roundHalfEven scaled (denominator * 2 ^ count) :=
      Nat.le_trans enough (bounds_roundHalfEven _ _).1
    have binade : (top + 1) * unit ≤ count * unit := Nat.mul_le_mul_right _ above
    have many : unit * (denominator * 2 ^ count) ≤ scaled :=
      (Nat.le_div_iff_mul_le spacing).mp enough
    have wider : denominator * 2 ^ top * 2 ≤ denominator * 2 ^ count := by
      rw [Nat.mul_assoc, ← Nat.pow_succ]
      exact Nat.mul_le_mul_left _ (Nat.pow_le_pow_right (by decide) above)
    have least : unit * (denominator * 2 ^ top * 2) ≤ unit * (denominator * 2 ^ count) :=
      Nat.mul_le_mul_left _ wider
    refine iff_of_true ?_ ?_
    · rw [Nat.add_mul] at binade ⊢
      omega
    · have left : 2 * (2 * unit) * (denominator * 2 ^ top) =
          2 * (unit * (denominator * 2 ^ top * 2)) := by ring
      omega

/-- A higher word stands for more units. -/
theorem strictMono_units (format : Format) : StrictMono format.units := by
  intro word other less
  have leading := Nat.two_pow_pos format.fractionBits
  have parts := Nat.div_add_mod word (2 ^ format.fractionBits)
  have otherParts := Nat.div_add_mod other (2 ^ format.fractionBits)
  have fraction := Nat.mod_lt word leading
  have otherFraction := Nat.mod_lt other leading
  rw [units_eq, units_eq]
  generalize 2 ^ format.fractionBits = unit at leading parts otherParts fraction otherFraction ⊢
  generalize word / unit = exponent at parts ⊢
  generalize other / unit = otherExponent at otherParts ⊢
  generalize word % unit = rest at parts fraction ⊢
  generalize other % unit = otherRest at otherParts otherFraction ⊢
  by_cases subnormal : word < unit
  · rw [if_pos subnormal]
    split
    · exact less
    · -- A normal word has at least as many units as its leading bit.
      exact Nat.lt_of_lt_of_le subnormal
        (Nat.le_trans (Nat.le_add_right unit otherRest) (Nat.le_mul_of_pos_right _ (by simp)))
  · rw [if_neg subnormal, if_neg (by omega)]
    have normal : exponent ≠ 0 := by
      rintro rfl
      omega
    rcases Nat.lt_trichotomy exponent otherExponent with below | rfl | above
    · -- A full significand is less than the next binade's first.
      calc (unit + rest) * 2 ^ (exponent - 1)
          < unit * 2 * 2 ^ (exponent - 1) :=
            Nat.mul_lt_mul_of_pos_right (by omega) (Nat.two_pow_pos _)
        _ = unit * 2 ^ (exponent - 1 + 1) := by rw [Nat.pow_succ', Nat.mul_assoc]
        _ ≤ (unit + otherRest) * 2 ^ (otherExponent - 1) :=
            Nat.mul_le_mul (Nat.le_add_right _ _) (Nat.pow_le_pow_right (by decide) (by omega))
    · exact Nat.mul_lt_mul_of_pos_right (by omega) (Nat.two_pow_pos _)
    · -- A higher exponent would make the first word the higher one.
      have apart : unit * (otherExponent + 1) ≤ unit * exponent := Nat.mul_le_mul_left _ above
      rw [Nat.mul_succ] at apart
      omega

end Format

/-- Whether the number is infinite. -/
def Binary32.isInfinite (number : Binary32) : Bool :=
  number.magnitude = Format.binary32.infinity

/-- A number made of a sign and a magnitude has this magnitude. -/
theorem Binary32.magnitude_ofMagnitude (negative : Bool) {magnitude : Nat}
    (fits : magnitude < Format.binary32.signBit) :
    (ofMagnitude negative magnitude).magnitude = magnitude := by
  have signBit : Format.binary32.signBit = 2 ^ 31 := by decide
  unfold ofMagnitude Binary32.magnitude
  rw [signBit] at fits ⊢
  -- The sign bit is the highest one, and the magnitude lies below it.
  cases negative
  · simp only [Bool.false_eq_true, if_false, UInt32.toNat_ofNat']
    omega
  · simp only [if_true, UInt32.toNat_ofNat']
    omega

namespace Binary64

/-- The word, sign aside, of the middle between the largest finite single precision number and the
next power of two. -/
def singleOverflow : Nat := 0x47EFFFFFF0000000

/-- A finite number is narrowed to infinity exactly from the middle on. -/
theorem isInfinite_narrow_iff {number : Binary64} (finite : number.isFinite = true) :
    number.narrow.isInfinite = true ↔ singleOverflow ≤ number.magnitude := by
  have bounded : number.magnitude < Format.binary64.infinity := of_decide_eq_true finite
  have notNaN : number.isNaN = false := decide_eq_false (Nat.lt_asymm bounded)
  unfold narrow
  rw [notNaN, finite]
  simp only [Bool.false_eq_true, if_false, if_true, Binary32.isInfinite, decide_eq_true_eq]
  rw [Binary32.magnitude_ofMagnitude,
    ← (Format.strictMono_units Format.binary64).le_iff_le]
  · have range : Format.binary32.infinity = (253 + 2) * 2 ^ Format.binary32.fractionBits := by
      decide
    have positive : 0 < 1 <<< Format.binary64.unitExponent := by decide
    -- The units of the middle fall short of the power of two by half the spacing.
    have middle : 2 * (2 * 2 ^ Format.binary32.fractionBits) *
        (1 <<< Format.binary64.unitExponent * 2 ^ 253) =
          2 * (Format.binary64.units singleOverflow * 2 ^ Format.binary32.unitExponent) +
            1 <<< Format.binary64.unitExponent * 2 ^ 253 := by
      decide +kernel
    rw [Format.nearest_eq_infinity_iff range positive, middle, Nat.add_le_add_iff_right,
      Nat.mul_le_mul_left_iff (by decide), Nat.mul_le_mul_right_iff (Nat.two_pow_pos _)]
  · -- Rounding leaves no word above that of infinity.
    have most : Format.binary32.nearest (Format.binary64.units number.magnitude)
        (1 <<< Format.binary64.unitExponent) ≤ Format.binary32.infinity := Nat.min_le_right _ _
    have infinity : Format.binary32.infinity < Format.binary32.signBit := by decide
    omega

/-- A finite number that is not beyond single precision is narrowed to a finite number. -/
theorem isInfinite_narrow_of_within {number : Binary64} (finite : number.isFinite = true)
    (within : number.exceedsSingle = false) : number.narrow.isInfinite = false := by
  rw [exceedsSingle, finite, Bool.true_and, decide_eq_false_iff_not] at within
  -- Overflow begins above the largest number of single precision.
  have order : largestSingle < singleOverflow := by decide
  rw [← Bool.not_eq_true, isInfinite_narrow_iff finite]
  omega

end Binary64

end RowQuery.Number
