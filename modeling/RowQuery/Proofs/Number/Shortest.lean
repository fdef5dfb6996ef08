import RowQuery.Number.Shortest

/-!
The shortest decimal of a double is not zero, as the numbers that round to a positive magnitude are
positive.
-/

namespace RowQuery.Number

namespace Decimal

/-- Dropping zeros at the end leaves a number other than zero. -/
theorem significand_dropZeros_ne_zero {decimal : Decimal} (positive : decimal.significand ≠ 0)
    (fuel : Nat) : (decimal.dropZeros fuel).significand ≠ 0 := by
  induction fuel generalizing decimal with
  | zero => exact positive
  | succ fuel ih =>
    unfold dropZeros
    split
    · -- A number that ends in a zero, and is none, has digits in front of it.
      exact ih (show decimal.significand / 10 ≠ 0 by omega)
    · exact positive

end Decimal

/-- A bit stays one wherever it is shifted. -/
theorem one_shiftLeft_pos (count : Nat) : 0 < 1 <<< count := by
  rw [Nat.shiftLeft_eq, Nat.one_mul]
  exact Nat.two_pow_pos count

/-- A magnitude other than zero has a significand. -/
theorem Format.significand_pos (format : Format) {word : Nat} (positive : word ≠ 0) :
    0 < format.significand word := by
  have leading := one_shiftLeft_pos format.fractionBits
  -- A subnormal word is its significand, and a normal one has a leading bit.
  unfold significand
  simp only
  split <;> omega

namespace RoundingInterval

/-- The numbers that round to a magnitude other than zero are positive. -/
theorem lower_ofMagnitude_pos (format : Format) {word : Nat} (positive : word ≠ 0) :
    0 < (ofMagnitude format word).lower := by
  have gapPositive := one_shiftLeft_pos (format.doublings word)
  have least := Nat.le_mul_of_pos_left (1 <<< format.doublings word)
    (format.significand_pos positive)
  unfold ofMagnitude
  -- The lower end is half a gap below the magnitude at most, and the magnitude is at least a gap.
  simp only
  split <;> omega

/-- An integer in an interval of positive numbers is not zero. -/
theorem ne_zero_of_contains {interval : RoundingInterval} (positive : 0 < interval.lower)
    {integer : Nat} (inside : interval.contains integer = true) : integer ≠ 0 := by
  rintro rfl
  -- Zero lies below the lower end, whether that belongs to the interval or not.
  unfold contains at inside
  simp only [Nat.zero_mul] at inside
  split at inside
  all_goals
    simp only [Bool.and_eq_true, decide_eq_true_eq] at inside
    omega

/-- The integer nearest to the centre of an interval lies in the interval. -/
theorem contains_of_nearestInteger? {interval : RoundingInterval} {tieUp : Nat → Bool}
    {integer : Nat} (nearest : interval.nearestInteger? tieUp = some integer) :
    interval.contains integer = true := by
  unfold nearestInteger? at nearest
  simp only at nearest
  split at nearest
  · rename_i below above
    -- Both neighbours of the centre belong to the interval, whichever is taken.
    split at nearest
    · exact Option.some.inj nearest ▸ below
    · split at nearest
      · exact Option.some.inj nearest ▸ above
      · rw [← Option.some.inj nearest]
        split
        · exact above
        · exact below
  · rename_i below _
    exact Option.some.inj nearest ▸ below
  · rename_i _ above
    exact Option.some.inj nearest ▸ above
  · contradiction

end RoundingInterval

/-- The shortest decimal of a positive magnitude is not zero, or else no seventeen digits were
enough. -/
theorem shortest_ne_zero (format : Format) (tieUp : Nat → Bool) {word : Nat} (positive : word ≠ 0) :
    (shortest format tieUp word).significand ≠ 0 ∨ shortest format tieUp word = ⟨0, 17⟩ := by
  unfold shortest
  simp only
  cases found : (List.range 17).findSome? fun (extra : Nat) =>
      (((RoundingInterval.ofMagnitude format word).inPowersOfTen
        ((RoundingInterval.ofMagnitude format word).decimalOrder - 1 - extra)).nearestInteger?
          tieUp).map fun digits => Decimal.mk digits
            ((RoundingInterval.ofMagnitude format word).decimalOrder - 1 - extra) with
  -- A zero is dropped into the exponent as often as zeros are dropped at all.
  | none => exact .inr (by rfl)
  | some decimal =>
    -- The decimal was found as an integer in the interval, in some power of ten.
    obtain ⟨extra, _, taken⟩ := List.exists_of_findSome?_eq_some found
    obtain ⟨integer, nearest, rfl⟩ := Option.map_eq_some_iff.mp taken
    refine .inl (Decimal.significand_dropZeros_ne_zero ?_ 17)
    refine RoundingInterval.ne_zero_of_contains ?_
      (RoundingInterval.contains_of_nearestInteger? nearest)
    exact Nat.mul_pos (RoundingInterval.lower_ofMagnitude_pos format positive)
      (Nat.pow_pos (by decide))

end RowQuery.Number
