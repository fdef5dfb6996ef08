import Mathlib.Tactic.Ring
import RowQuery.Number.Binary64

/-!
Numbers that a binary format has a word for. Rounding finds the word of such a number exactly, so a
number of single precision is the same number in double precision and comes back from it.
-/

namespace RowQuery.Number

namespace Format

/-- A number of smallest units that a format has a word for: a significand of at most the format's
length, doubled some number of times. -/
def IsExact (format : Format) (units : Nat) : Prop :=
  ∃ significand doublings, significand < 2 ^ (format.fractionBits + 1) ∧
    units = significand * 2 ^ doublings

/-- How often the significand of a number of units is doubled. -/
def scale (format : Format) (units : Nat) : Nat :=
  units.log2 - format.fractionBits

/-- The word of a number of units. -/
def wordOf (format : Format) (units : Nat) : Nat :=
  2 ^ format.fractionBits * format.scale units + units / 2 ^ format.scale units

variable {format : Format}

/-- The significand of an exact number leaves no remainder. -/
theorem IsExact.dvd {units : Nat} (exact : format.IsExact units) :
    2 ^ format.scale units ∣ units := by
  obtain ⟨significand, doublings, short, rfl⟩ := exact
  unfold scale
  by_cases zero : significand = 0
  · simp [zero]
  · -- A short significand has room for all but as many bits as the format holds.
    have positive : significand * 2 ^ doublings ≠ 0 :=
      Nat.mul_ne_zero zero (Nat.ne_of_gt (Nat.two_pow_pos doublings))
    have below : (significand * 2 ^ doublings).log2 < format.fractionBits + 1 + doublings := by
      rw [Nat.log2_lt positive, Nat.pow_add]
      exact Nat.mul_lt_mul_of_pos_right short (Nat.two_pow_pos doublings)
    have divides : 2 ^ ((significand * 2 ^ doublings).log2 - format.fractionBits) ∣ 2 ^ doublings :=
      Nat.pow_dvd_pow 2 (by omega)
    exact Nat.dvd_trans divides (Nat.dvd_mul_left _ _)

/-- The bits of a number of units in front of its last doublings: a significand that is shorter than
the format allows only if nothing is doubled. -/
theorem bounds_div_scale (format : Format) (units : Nat) :
    units / 2 ^ format.scale units < 2 ^ (format.fractionBits + 1) ∧
      (format.scale units ≠ 0 → 2 ^ format.fractionBits ≤ units / 2 ^ format.scale units) := by
  constructor
  · -- The doublings and the significand together make up the length of the number.
    rw [Nat.div_lt_iff_lt_mul (Nat.two_pow_pos _), ← Nat.pow_add]
    refine Nat.lt_of_lt_of_le Nat.lt_log2_self (Nat.pow_le_pow_right (by decide) ?_)
    unfold scale
    omega
  · intro doubled
    unfold scale at doubled ⊢
    -- A number that is doubled is long, so it is not zero.
    have positive : units ≠ 0 := by
      rintro rfl
      simp at doubled
    rw [Nat.le_div_iff_mul_le (Nat.two_pow_pos _), ← Nat.pow_add]
    refine Nat.le_trans (Nat.pow_le_pow_right (by decide) ?_) (Nat.log2_self_le positive)
    omega

/-- An exact quotient is rounded to itself. -/
theorem roundHalfEven_mul (quotient : Nat) {denominator : Nat} (positive : 0 < denominator) :
    roundHalfEven (quotient * denominator) denominator = quotient := by
  unfold roundHalfEven
  simp [Nat.mul_div_cancel _ positive, positive]

/-- Rounding finds the word of an exact number, up to infinity. -/
theorem nearest_of_isExact {units numerator denominator : Nat} (exact : format.IsExact units)
    (positive : 0 < denominator)
    (quotient : numerator * 2 ^ format.unitExponent = units * denominator) :
    format.nearest numerator denominator = min (format.wordOf units) format.infinity := by
  unfold nearest
  simp only [Nat.shiftLeft_eq, quotient, Nat.mul_div_cancel _ positive]
  rw [← scale]
  -- The number is a multiple of the spacing of its neighbours, so that nothing is rounded.
  have whole := Nat.div_mul_cancel exact.dvd
  have spacing : units * denominator =
      units / 2 ^ format.scale units * (denominator * 2 ^ format.scale units) := by
    calc units * denominator
        = units / 2 ^ format.scale units * 2 ^ format.scale units * denominator := by rw [whole]
      _ = _ := by rw [Nat.mul_assoc, Nat.mul_comm (2 ^ _) denominator]
  rw [spacing, roundHalfEven_mul _ (Nat.mul_pos positive (Nat.two_pow_pos _)), wordOf,
    Nat.mul_comm (2 ^ format.fractionBits)]

/-- The units of a word: below the first full significand the word itself, and from there on a full
significand that is doubled once less than the exponent field says. -/
theorem units_eq (word : Nat) :
    format.units word =
      if word < 2 ^ format.fractionBits then word
      else (2 ^ format.fractionBits + word % 2 ^ format.fractionBits) *
        2 ^ (word / 2 ^ format.fractionBits - 1) := by
  -- Shifts are products and quotients by powers of two.
  unfold units significand doublings
  simp only [Nat.shiftLeft_eq, Nat.shiftRight_eq_div_pow, Nat.one_mul]
  split
  · rename_i small
    simp [Nat.div_eq_of_lt small]
  · rfl

/-- The units of a word are an exact number. -/
theorem isExact_units (word : Nat) : format.IsExact (format.units word) := by
  have leading := Nat.two_pow_pos format.fractionBits
  rw [units_eq]
  split
  · -- A subnormal word counts single units.
    exact ⟨word, 0, by rw [Nat.pow_succ]; omega, by simp⟩
  · -- A normal word adds its leading bit to a fraction that is shorter by one bit.
    refine ⟨_, _, ?_, rfl⟩
    have fraction := Nat.mod_lt word leading
    rw [Nat.pow_succ]
    omega

/-- An exact number has as many units as its word. -/
theorem units_wordOf {units : Nat} (exact : format.IsExact units) :
    format.units (format.wordOf units) = units := by
  obtain ⟨short, full⟩ := bounds_div_scale format units
  have leading := Nat.two_pow_pos format.fractionBits
  have whole := Nat.div_mul_cancel exact.dvd
  rw [units_eq, wordOf]
  rw [Nat.pow_succ] at short
  by_cases doubled : format.scale units = 0
  · -- Nothing is doubled, and the word is the number itself.
    simp only [doubled, Nat.mul_zero, Nat.zero_add, Nat.pow_zero, Nat.div_one] at short ⊢
    split
    · rfl
    · -- The leading bit is there, and it counts as the first exponent.
      rename_i normal
      have once : units / 2 ^ format.fractionBits = 1 :=
        Nat.div_eq_of_lt_le (by omega) (by omega)
      have rest := Nat.div_add_mod units (2 ^ format.fractionBits)
      rw [once] at rest ⊢
      omega
  · have normal := full doubled
    generalize units / 2 ^ format.scale units = significand at short normal whole ⊢
    generalize 2 ^ format.fractionBits = unit at short normal leading ⊢
    -- The significand has its leading bit, which counts into the exponent field.
    have apart : unit * format.scale units + significand =
        (significand - unit) + unit * (format.scale units + 1) := by
      rw [Nat.mul_succ]
      omega
    have within : significand - unit < unit := by omega
    have large : ¬ (significand - unit) + unit * (format.scale units + 1) < unit := by
      rw [Nat.mul_succ]
      omega
    rw [apart, if_neg large, Nat.add_mul_mod_self_left, Nat.mod_eq_of_lt within,
      Nat.add_mul_div_left _ _ leading, Nat.div_eq_of_lt within, Nat.zero_add,
      Nat.add_sub_cancel, Nat.add_sub_cancel' normal]
    exact whole

/-- A word is the word of its units. -/
theorem wordOf_units (word : Nat) : format.wordOf (format.units word) = word := by
  have leading := Nat.two_pow_pos format.fractionBits
  have parts := Nat.div_add_mod word (2 ^ format.fractionBits)
  have fraction := Nat.mod_lt word leading
  rw [units_eq, wordOf]
  split
  · rename_i small
    -- A short number is not doubled.
    have undoubled : format.scale word = 0 := by
      unfold scale
      by_cases zero : word = 0
      · simp [zero]
      · have := (Nat.log2_lt zero).mpr small
        omega
    simp [undoubled]
  · rename_i large
    -- The number is as much longer than the format as the exponent field says.
    have field : 1 ≤ word / 2 ^ format.fractionBits :=
      (Nat.one_le_div_iff leading).mpr (by omega)
    have scaled : format.scale ((2 ^ format.fractionBits + word % 2 ^ format.fractionBits) *
        2 ^ (word / 2 ^ format.fractionBits - 1)) = word / 2 ^ format.fractionBits - 1 := by
      have positive : (2 ^ format.fractionBits + word % 2 ^ format.fractionBits) *
          2 ^ (word / 2 ^ format.fractionBits - 1) ≠ 0 :=
        Nat.mul_ne_zero (by omega) (Nat.ne_of_gt (Nat.two_pow_pos _))
      have length : ((2 ^ format.fractionBits + word % 2 ^ format.fractionBits) *
          2 ^ (word / 2 ^ format.fractionBits - 1)).log2 =
            format.fractionBits + (word / 2 ^ format.fractionBits - 1) := by
        rw [Nat.log2_eq_iff positive, Nat.pow_add, Nat.add_right_comm, Nat.pow_add _ (_ + 1),
          Nat.pow_succ]
        constructor
        · exact Nat.mul_le_mul_right _ (by omega)
        · exact Nat.mul_lt_mul_of_pos_right (by omega) (Nat.two_pow_pos _)
      rw [scale, length, Nat.add_sub_cancel_left]
    rw [scaled, Nat.mul_div_cancel _ (Nat.two_pow_pos _), Nat.mul_sub_one]
    have field' : 2 ^ format.fractionBits ≤
        2 ^ format.fractionBits * (word / 2 ^ format.fractionBits) :=
      Nat.le_mul_of_pos_right _ field
    omega

end Format

namespace Binary64

/-- A number made of a sign and a magnitude has these. -/
theorem parts_ofMagnitude (negative : Bool) {magnitude : Nat}
    (fits : magnitude < Format.binary64.signBit) :
    (ofMagnitude negative magnitude).magnitude = magnitude ∧
      (ofMagnitude negative magnitude).isNegative = negative := by
  have signBit : Format.binary64.signBit = 2 ^ 63 := by decide
  unfold ofMagnitude Binary64.magnitude isNegative
  rw [signBit] at fits ⊢
  -- The sign bit is the highest one, and the magnitude lies below it.
  cases negative
  · simp only [Bool.false_eq_true, if_false, UInt64.toNat_ofNat', decide_eq_false_iff_not]
    omega
  · simp only [if_true, UInt64.toNat_ofNat', decide_eq_true_eq]
    omega

end Binary64

namespace Binary32

/-- A number is made of its sign and its magnitude. -/
theorem ofMagnitude_magnitude (number : Binary32) :
    ofMagnitude number.isNegative number.magnitude = number := by
  have signBit : Format.binary32.signBit = 2 ^ 31 := by decide
  have word := number.word.toNat_lt
  -- The sign bit is the highest one of the word.
  have whole : (if number.isNegative then Format.binary32.signBit + number.magnitude
      else number.magnitude) = number.word.toNat := by
    unfold magnitude isNegative
    rw [signBit]
    by_cases negative : 2 ^ 31 ≤ number.word.toNat
    · simp only [negative, decide_true, if_true]
      omega
    · simp only [negative, decide_false, Bool.false_eq_true, if_false]
      omega
  rw [ofMagnitude, whole, UInt32.ofNat_toNat]

/-- Double precision counts in units that are finer by this power of two. -/
def fineness : Nat :=
  Format.binary64.unitExponent - Format.binary32.unitExponent

/-- The units of a finite magnitude are a short significand with few doublings. -/
theorem exists_units {magnitude : Nat} (finite : magnitude < Format.binary32.infinity) :
    ∃ significand doublings, significand < 2 ^ 24 ∧ doublings ≤ 253 ∧
      Format.binary32.units magnitude = significand * 2 ^ doublings := by
  have infinity : Format.binary32.infinity = 255 * 2 ^ 23 := by decide
  rw [infinity] at finite
  rw [Format.units_eq]
  simp only [show Format.binary32.fractionBits = 23 from rfl]
  -- The exponent field of a finite magnitude is at most 254, and it counts one doubling less.
  split
  · exact ⟨magnitude, 0, by omega, by omega, by simp⟩
  · exact ⟨_, _, by omega, by omega, rfl⟩

/-- A short significand with few doublings lies in one of the binades of single precision. -/
theorem scale_le_of_short {significand doublings : Nat} (short : significand < 2 ^ 24)
    (few : doublings ≤ 253) :
    Format.binary64.scale (significand * 2 ^ (doublings + fineness)) ≤ 1149 := by
  have finer : fineness = 925 := by decide
  unfold Format.scale
  -- The bits of a product with a power of two are those of the significand, moved up.
  by_cases zero : significand * 2 ^ (doublings + fineness) = 0
  · rw [zero]
    decide
  · have below : (significand * 2 ^ (doublings + fineness)).log2 < 24 + (doublings + fineness) := by
      rw [Nat.log2_lt zero, Nat.pow_add 2 24]
      exact Nat.mul_lt_mul_of_pos_right short (Nat.two_pow_pos _)
    have exponents : Format.binary64.fractionBits = 52 := rfl
    omega

/-- A finite magnitude is exact in double precision, where it is counted in finer units, and its
word there is at most that of the largest finite number of single precision. -/
theorem widened_magnitude {magnitude : Nat} (finite : magnitude < Format.binary32.infinity) :
    Format.binary64.IsExact (Format.binary32.units magnitude * 2 ^ fineness) ∧
      Format.binary64.wordOf (Format.binary32.units magnitude * 2 ^ fineness) ≤
        Binary64.largestSingle := by
  obtain ⟨significand, doublings, short, few, units⟩ := exists_units finite
  have finer : fineness = 925 := by decide
  have exponents : Format.binary64.fractionBits = 52 := rfl
  rw [units, Nat.mul_assoc, ← Nat.pow_add]
  refine ⟨⟨significand, doublings + fineness, by rw [exponents]; omega, rfl⟩, ?_⟩
  have largest : Binary64.largestSingle = 2 ^ 52 * 1149 + (2 ^ 24 - 1) * 2 ^ 29 := by decide
  have bits :=
    (Format.bounds_div_scale Format.binary64 (significand * 2 ^ (doublings + fineness))).1
  have spaced := scale_le_of_short short few
  rw [Format.wordOf, exponents]
  rw [exponents] at bits
  by_cases top : Format.binary64.scale (significand * 2 ^ (doublings + fineness)) = 1149
  · -- In the last binade the significand is compared.
    have within : significand * 2 ^ (doublings + fineness) /
        2 ^ Format.binary64.scale (significand * 2 ^ (doublings + fineness)) ≤
          (2 ^ 24 - 1) * 2 ^ 29 := by
      apply Nat.div_le_of_le_mul
      rw [Nat.mul_left_comm, ← Nat.pow_add]
      exact Nat.mul_le_mul (by omega) (Nat.pow_le_pow_right (by decide) (by omega))
    omega
  · omega

/-- The word of a finite magnitude in double precision, and the units of that word. -/
theorem exists_widened {magnitude : Nat} (finite : magnitude < Format.binary32.infinity) :
    ∃ word, Format.binary64.nearest (Format.binary32.units magnitude)
        (1 <<< Format.binary32.unitExponent) = word ∧
      word ≤ Binary64.largestSingle ∧
      Format.binary64.units word = Format.binary32.units magnitude * 2 ^ fineness := by
  obtain ⟨exact, bound⟩ := widened_magnitude finite
  refine ⟨_, ?_, bound, Format.units_wordOf exact⟩
  have positive : 0 < 1 <<< Format.binary32.unitExponent := by decide
  have finer : fineness + Format.binary32.unitExponent = Format.binary64.unitExponent := by decide
  have quotient : Format.binary32.units magnitude * 2 ^ Format.binary64.unitExponent =
      Format.binary32.units magnitude * 2 ^ fineness * (1 <<< Format.binary32.unitExponent) := by
    rw [Nat.shiftLeft_eq, Nat.one_mul, Nat.mul_assoc, ← Nat.pow_add, finer]
  rw [Format.nearest_of_isExact exact positive quotient]
  -- The word is far below that of infinity.
  have infinity : Binary64.largestSingle < Format.binary64.infinity := by decide
  exact Nat.min_eq_left (Nat.le_of_lt (Nat.lt_of_le_of_lt bound infinity))

/-- The units of a finite magnitude, counted as those of double precision, are rounded back to
it. -/
theorem nearest_fine {magnitude : Nat} (finite : magnitude < Format.binary32.infinity) :
    Format.binary32.nearest (Format.binary32.units magnitude * 2 ^ fineness)
      (1 <<< Format.binary64.unitExponent) = magnitude := by
  have positive : 0 < 1 <<< Format.binary64.unitExponent := by decide
  have finer : fineness + Format.binary32.unitExponent = Format.binary64.unitExponent := by decide
  -- In units of double precision the number is a multiple of one unit of single precision.
  have quotient : Format.binary32.units magnitude * 2 ^ fineness *
      2 ^ Format.binary32.unitExponent =
        Format.binary32.units magnitude * (1 <<< Format.binary64.unitExponent) := by
    rw [Nat.shiftLeft_eq, Nat.one_mul, Nat.mul_assoc, ← Nat.pow_add, finer]
  rw [Format.nearest_of_isExact (Format.isExact_units magnitude) positive quotient,
    Format.wordOf_units]
  exact Nat.min_eq_left (Nat.le_of_lt finite)

/-- The number with the quiet NaN for every NaN. -/
def quieted (number : Binary32) : Binary32 :=
  if number.isNaN then nan else number

/-- A number other than a NaN is left as it is. -/
theorem quieted_of_ordinary {number : Binary32} (ordinary : number.isNaN = false) :
    number.quieted = number := by
  rw [quieted, ordinary, if_neg Bool.false_ne_true]

/-- A number of single precision is not beyond single precision when it is widened, and it comes
back when it is narrowed, where the quiet NaN stands for every NaN. -/
theorem narrow_widen (number : Binary32) :
    number.widen.exceedsSingle = false ∧ number.widen.narrow = number.quieted := by
  have infinities : Format.binary64.infinity < Format.binary64.signBit := by decide
  rcases Nat.lt_trichotomy number.magnitude Format.binary32.infinity with finite | infinite | nan
  · -- The finite number has a word in double precision with the same units, counted more finely.
    obtain ⟨word, nearest, bound, units⟩ := exists_widened finite
    have largest : Binary64.largestSingle < Format.binary64.infinity := by decide
    have ordinary : number.isNaN = false := decide_eq_false (by omega)
    have widened : number.widen = .ofMagnitude number.isNegative word := by
      unfold widen
      rw [ordinary, if_neg Bool.false_ne_true, if_neg (by omega)]
      simp only [nearest]
    have fits : word < Format.binary64.signBit := by omega
    obtain ⟨magnitude, sign⟩ := Binary64.parts_ofMagnitude number.isNegative fits
    rw [widened, quieted_of_ordinary ordinary]
    constructor
    · unfold Binary64.exceedsSingle
      rw [magnitude, decide_eq_false (by omega), Bool.and_false]
    · unfold Binary64.narrow Binary64.isNaN Binary64.isFinite
      rw [magnitude, sign, decide_eq_false (by omega), decide_eq_true (by omega)]
      simp only [Bool.false_eq_true, if_false, if_true, units, nearest_fine finite]
      exact ofMagnitude_magnitude number
  · -- An infinite number is widened to the infinite one of the same sign, which is not finite.
    have ordinary : number.isNaN = false := decide_eq_false (by omega)
    have widened : number.widen = .ofMagnitude number.isNegative Format.binary64.infinity := by
      unfold widen
      rw [ordinary, if_neg Bool.false_ne_true, if_pos infinite]
    obtain ⟨magnitude, sign⟩ := Binary64.parts_ofMagnitude number.isNegative infinities
    rw [widened, quieted_of_ordinary ordinary]
    constructor
    · unfold Binary64.exceedsSingle Binary64.isFinite
      rw [magnitude, decide_eq_false (by omega), Bool.false_and]
    · unfold Binary64.narrow Binary64.isNaN Binary64.isFinite
      rw [magnitude, sign, decide_eq_false (by omega)]
      simp only [Bool.false_eq_true, if_false, ← infinite]
      exact ofMagnitude_magnitude number
  · -- Every NaN is widened to the quiet one, which is narrowed to the quiet one.
    have other : number.isNaN = true := decide_eq_true nan
    rw [widen, quieted, if_pos other, if_pos other]
    decide

end Binary32

end RowQuery.Number
