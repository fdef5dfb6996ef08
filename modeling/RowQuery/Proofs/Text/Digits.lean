import Mathlib.Tactic.Ring
import RowQuery.Text.Hex
import RowQuery.Text.Numeral

/-!
Numbers in decimal and bytes in hexadecimal. Their digits are read back as what they stand for.
-/

namespace RowQuery.Text

/-- The decimal digits of a number are digits. -/
theorem isDigit_toDigits {number : Nat} : ∀ digit ∈ Nat.toDigits 10 number, digit.isDigit = true :=
  fun _ member => Nat.isDigit_of_mem_toDigits (by decide) (by decide) member

/-- A text in front of which digits have ended. -/
def EndsDigits (text : List Char) : Prop :=
  ∀ first ∈ text.head?, first.isDigit = false

/-- A character that is no digit ends digits. -/
theorem endsDigits_cons {first : Char} (noDigit : first.isDigit = false) (rest : List Char) :
    EndsDigits (first :: rest) := by
  intro char found
  rw [← Option.some.inj found]
  exact noDigit

/-- What ends digits still does so if it is cut off somewhere. -/
theorem EndsDigits.take {text : List Char} (ended : EndsDigits text) (count : Nat) :
    EndsDigits (text.take count) := by
  intro first found
  apply ended first
  cases count with
  -- Nothing is left.
  | zero => simp at found
  | succ count =>
    cases text with
    | nil => simp at found
    | cons char rest => exact found

/-- Digits are split from what is behind them, where they have ended. -/
theorem takeWhile_isDigit_append {digits rest : List Char}
    (decimal : ∀ digit ∈ digits, digit.isDigit = true) (ended : EndsDigits rest) :
    (digits ++ rest).takeWhile Char.isDigit = digits ∧
      (digits ++ rest).dropWhile Char.isDigit = rest := by
  rw [List.takeWhile_append_of_pos decimal, List.dropWhile_append_of_pos decimal]
  -- What is behind the digits stops the walk at once, if there is anything.
  cases rest with
  | nil => exact ⟨List.append_nil digits, rfl⟩
  | cons first behind =>
    have noDigit := ended first rfl
    simp [noDigit]

/-- The digits of a number have its value. -/
theorem digitsValue_toDigits (number : Nat) : digitsValue (Nat.toDigits 10 number) = number := by
  have value := Nat.ofDigitChars_ten_toDigits (n := number)
  rw [Nat.ofDigitChars_eq_foldl] at value
  exact value

/-- Zeros in front do not change the value of digits. -/
theorem digitsValue_replicate_append (zeros : Nat) (digits : List Char) :
    digitsValue (List.replicate zeros '0' ++ digits) = digitsValue digits := by
  induction zeros with
  -- A zero in front is multiplied by ten with the rest of them.
  | zero => rfl
  | succ zeros ih =>
    unfold digitsValue at ih ⊢
    rw [List.replicate_succ, List.cons_append, List.foldl_cons]
    exact ih

/-- A padded number has its value. -/
theorem digitsValue_padded (width number : Nat) : digitsValue (padded width number) = number := by
  unfold padded
  rw [digitsValue_replicate_append, digitsValue_toDigits]

/-- A padded number consists of digits. -/
theorem isDigit_padded {width number : Nat} :
    ∀ digit ∈ padded width number, digit.isDigit = true := by
  intro digit member
  -- A digit is one of the zeros in front or one of the number's own.
  rcases List.mem_append.mp member with zero | own
  · rw [List.eq_of_mem_replicate zero]
    decide
  · exact isDigit_toDigits digit own

/-- A number that fits the width is padded to it. -/
theorem length_padded {width number : Nat} (positive : 0 < width) (fits : number < 10 ^ width) :
    (padded width number).length = width := by
  -- The number has no more digits than the width, and zeros make up for the rest.
  have short := (Nat.length_toDigits_le_iff (by decide) positive).mpr fits
  unfold padded
  rw [List.length_append, List.length_replicate]
  omega

/-- The digit of a number below sixteen stands for it, and is no hyphen. -/
theorem hexValue?_hexDigit {number : Nat} (small : number < 16) :
    hexValue? (hexDigit number) = some number ∧ hexDigit number ≠ '-' := by
  have all : ∀ number < 16,
      hexValue? (hexDigit number) = some number ∧ hexDigit number ≠ '-' := by decide
  exact all number small

/-- Bytes are read back from their digits. -/
theorem bytesOfHex?_hexOfBytes (bytes : List UInt8) :
    bytesOfHex? (hexOfBytes bytes) = some bytes := by
  induction bytes with
  | nil => rfl
  | cons byte bytes ih =>
    have bound := byte.toNat_lt
    have high := (hexValue?_hexDigit (show byte.toNat / 16 < 16 by omega)).1
    have low := (hexValue?_hexDigit (show byte.toNat % 16 < 16 by omega)).1
    unfold hexOfBytes at ih ⊢
    rw [List.flatMap_cons]
    simp only [List.cons_append, List.nil_append, bytesOfHex?, high, low, ih, Option.bind_some,
      Bind.bind]
    -- The two digits make up the byte.
    rw [Nat.div_add_mod, UInt8.ofNat_toNat]

/-- There are two digits for each byte. -/
theorem length_hexOfBytes (bytes : List UInt8) : (hexOfBytes bytes).length = 2 * bytes.length := by
  -- Each byte is written on its own, with two digits.
  induction bytes with
  | nil => rfl
  | cons byte bytes ih =>
    unfold hexOfBytes at ih ⊢
    simp only [List.flatMap_cons, List.length_append, ih, List.length_cons, List.length_nil]
    omega

/-- There is no hyphen among the digits of bytes. -/
theorem ne_hyphen_of_mem_hexOfBytes {bytes : List UInt8} :
    ∀ digit ∈ hexOfBytes bytes, digit ≠ '-' := by
  intro digit member
  -- Each digit is one of the two of some byte.
  obtain ⟨byte, _, inside⟩ := List.mem_flatMap.mp member
  have bound := byte.toNat_lt
  rcases List.mem_cons.mp inside with rfl | inside
  · exact (hexValue?_hexDigit (show byte.toNat / 16 < 16 by omega)).2
  · rw [List.mem_singleton.mp inside]
    exact (hexValue?_hexDigit (show byte.toNat % 16 < 16 by omega)).2

end RowQuery.Text
