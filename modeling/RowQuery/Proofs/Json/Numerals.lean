import Mathlib.Data.List.Basic
import RowQuery.Json.Node
import RowQuery.Json.Writer
import RowQuery.Proofs.Number.Shortest
import RowQuery.Proofs.Text.Digits

/-!
Numerals in a JSON text. Every number, whether an integer or a double, is written as a numeral that
follows the rules, and such a numeral is read as it is, up to where it ends.
-/

namespace RowQuery

open Number Text

namespace JsonNumeral

/-- The point and the digits behind it, if there are any. -/
def fractionChars (numeral : JsonNumeral) : List Char :=
  if numeral.fraction = [] then [] else '.' :: numeral.fraction

/-- The exponent with its sign, if there is one. -/
def exponentChars (numeral : JsonNumeral) : List Char :=
  match numeral.exponent with
  | none => []
  | some (below, digits) => 'e' :: (if below then '-' else '+') :: digits

/-- The characters of a numeral. -/
def chars (numeral : JsonNumeral) : List Char :=
  (if numeral.negative then ['-'] else []) ++ numeral.whole ++ numeral.fractionChars ++
    numeral.exponentChars

/-- A numeral that follows the rules: it has digits in front of the point, no needless zero among
them, and digits in its exponent. -/
structure IsWellFormed (numeral : JsonNumeral) : Prop where
  whole : ∀ digit ∈ numeral.whole, digit.isDigit = true
  present : numeral.whole ≠ []
  needless : ∀ digits, numeral.whole = '0' :: digits → digits = []
  fraction : ∀ digit ∈ numeral.fraction, digit.isDigit = true
  exponent : ∀ below digits, numeral.exponent = some (below, digits) →
    digits ≠ [] ∧ ∀ digit ∈ digits, digit.isDigit = true

/-- A numeral that follows the rules starts with a sign or a digit. -/
theorem IsWellFormed.exists_head {numeral : JsonNumeral} (formed : numeral.IsWellFormed) :
    ∃ first rest, numeral.chars = first :: rest ∧ (first.isDigit = true ∨ first = '-') := by
  obtain ⟨first, rest, same⟩ := List.exists_cons_of_ne_nil formed.present
  unfold chars
  -- Either there is a sign, or the digits in front of the point come first.
  cases numeral.negative with
  | true => exact ⟨'-', _, rfl, .inr rfl⟩
  | false =>
    rw [same]
    exact ⟨first, _, rfl, .inl (formed.whole first (by rw [same]; exact List.mem_cons_self))⟩

end JsonNumeral

namespace JsonNode

/-- A text in front of which every numeral has ended. -/
def EndsNumeral (text : List Char) : Prop :=
  ∀ first ∈ text.head?, first.isDigit = false ∧ first ≠ '.' ∧ first ≠ 'e' ∧ first ≠ 'E'

/-- Where a numeral has ended, so have its digits. -/
theorem EndsNumeral.endsDigits {text : List Char} (ended : EndsNumeral text) : EndsDigits text :=
  fun first found => (ended first found).1

/-- Digits are split off up to where they end. -/
theorem spanDigits_append {digits rest : List Char}
    (decimal : ∀ digit ∈ digits, digit.isDigit = true) (ended : EndsDigits rest) :
    spanDigits (digits ++ rest) = (digits, rest) := by
  obtain ⟨front, behind⟩ := takeWhile_isDigit_append decimal ended
  unfold spanDigits
  rw [front, behind]

/-- The exponent of a numeral, if it has one, ends the digits in front of it. -/
theorem endsDigits_exponentChars (numeral : JsonNumeral) {rest : List Char}
    (ended : EndsNumeral rest) : EndsDigits (numeral.exponentChars ++ rest) := by
  unfold JsonNumeral.exponentChars
  -- An exponent starts with a letter, and without one the rest ends the digits.
  cases numeral.exponent with
  | none => exact ended.endsDigits
  | some exponent => exact endsDigits_cons (by decide) _

/-- The fraction of a numeral, or else its exponent, ends the digits in front of it. -/
theorem endsDigits_fractionChars (numeral : JsonNumeral) {rest : List Char}
    (ended : EndsNumeral rest) :
    EndsDigits (numeral.fractionChars ++ (numeral.exponentChars ++ rest)) := by
  unfold JsonNumeral.fractionChars
  -- A fraction starts with a point, and without one the exponent ends the digits.
  split
  · exact endsDigits_exponentChars numeral ended
  · exact endsDigits_cons (by decide) _

/-- Splits a text into the fraction of a numeral and what is behind it. -/
def fraction? (text : List Char) : Option (List Char × List Char) :=
  match text with
  | '.' :: rest =>
    match spanDigits rest with
    | ([], _) => none
    | parts => some parts
  | plain => some ([], plain)

/-- Splits a text into the exponent of a numeral, if there is one, and what is behind it. -/
def optionalExponent? (text : List Char) : Option (Option (Bool × List Char) × List Char) :=
  match text with
  | 'e' :: rest | 'E' :: rest => (exponent? rest).map fun read => (some read.1, read.2)
  | rest => some (none, rest)

/-- The fraction of a numeral is read up to where its digits end. -/
theorem fraction?_fractionChars {numeral : JsonNumeral} (formed : numeral.IsWellFormed)
    {rest : List Char} (ended : EndsNumeral rest) :
    fraction? (numeral.fractionChars ++ (numeral.exponentChars ++ rest)) =
      some (numeral.fraction, numeral.exponentChars ++ rest) := by
  have noDigit := endsDigits_exponentChars numeral ended
  unfold JsonNumeral.fractionChars
  by_cases none : numeral.fraction = []
  · -- Without a fraction there is no point, neither from an exponent nor from what is behind.
    have noPoint : ∀ text, numeral.exponentChars ++ rest ≠ '.' :: text := by
      intro text same
      unfold JsonNumeral.exponentChars at same
      cases exponent : numeral.exponent with
      | none =>
        simp only [exponent, List.nil_append] at same
        exact (ended '.' (by simp [same])).2.1 rfl
      | some parts => simp [exponent] at same
    rw [if_pos none, none, List.nil_append]
    unfold fraction?
    split
    · rename_i same
      exact absurd same (noPoint _)
    · rfl
  · -- There is a point, and the digits behind it end where the exponent starts.
    have span := spanDigits_append formed.fraction noDigit
    rw [if_neg none, List.cons_append]
    unfold fraction?
    simp only [span]
    split
    · rename_i empty
      exact absurd (Prod.mk.inj empty).1 none
    · rfl

/-- The exponent of a numeral is read up to where the numeral ends. -/
theorem optionalExponent?_exponentChars {numeral : JsonNumeral} (formed : numeral.IsWellFormed)
    {rest : List Char} (ended : EndsNumeral rest) :
    optionalExponent? (numeral.exponentChars ++ rest) = some (numeral.exponent, rest) := by
  unfold JsonNumeral.exponentChars
  cases exponent : numeral.exponent with
  | none =>
    simp only [List.nil_append]
    unfold optionalExponent?
    -- What is behind the numeral does not start like an exponent.
    split
    · exact absurd rfl (ended 'e' rfl).2.2.1
    · exact absurd rfl (ended 'E' rfl).2.2.2
    · rfl
  | some parts =>
    obtain ⟨below, digits⟩ := parts
    obtain ⟨present, decimal⟩ := formed.exponent below digits exponent
    have span := spanDigits_append decimal ended.endsDigits
    obtain ⟨first, others, rfl⟩ := List.exists_cons_of_ne_nil present
    have read : exponent? ((if below then '-' else '+') :: (first :: others ++ rest)) =
        some ((below, first :: others), rest) := by
      unfold exponent?
      cases below <;> simp only [if_true, Bool.false_eq_true, if_false, span]
    simp only [optionalExponent?, List.cons_append] at read ⊢
    rw [read, Option.map_some]

/-- A numeral is read part by part. -/
theorem numeral?_eq (negative : Bool) {whole text : List Char}
    (decimal : ∀ digit ∈ whole, digit.isDigit = true) (present : whole ≠ [])
    (needless : ∀ digits, whole = '0' :: digits → digits = []) (ended : EndsDigits text) :
    numeral? ((if negative then ['-'] else []) ++ (whole ++ text)) =
      (fraction? text).bind fun read =>
        (optionalExponent? read.2).map fun last => (⟨negative, whole, read.1, last.1⟩, last.2) := by
  have span := spanDigits_append decimal ended
  -- There is no sign in front of the digits, and no zero unless it is the only digit.
  have unsigned : ∀ other, whole ++ text ≠ '-' :: other := by
    intro other same
    obtain ⟨first, others, rfl⟩ := List.exists_cons_of_ne_nil present
    rw [List.cons_append, List.cons.injEq] at same
    have digit := decimal first List.mem_cons_self
    rw [same.1] at digit
    contradiction
  -- What follows the fraction is the exponent, if there is one.
  have last : ∀ (fraction text : List Char),
      (match text with
        | 'e' :: rest => (exponent? rest).bind fun read =>
          some ((⟨negative, whole, fraction, some read.1⟩ : JsonNumeral), read.2)
        | 'E' :: rest => (exponent? rest).bind fun read =>
          some (⟨negative, whole, fraction, some read.1⟩, read.2)
        | rest => some (⟨negative, whole, fraction, none⟩, rest)) =
      (optionalExponent? text).map fun read => (⟨negative, whole, fraction, read.1⟩, read.2) := by
    intro fraction text
    unfold optionalExponent?
    split
    · rename_i rest
      cases exponent? rest <;> rfl
    · rename_i rest
      cases exponent? rest <;> rfl
    · rfl
  have point : ∀ rest, fraction? ('.' :: rest) = match spanDigits rest with
      | ([], _) => none
      | parts => some parts := fun rest => rfl
  -- The fraction starts with a point, or there is none.
  have plain : (∀ rest, text ≠ '.' :: rest) → fraction? text = some ([], text) := by
    intro noPoint
    unfold fraction?
    split
    · exact absurd rfl (noPoint _)
    · rfl
  unfold numeral?
  cases negative
  all_goals
    simp only [if_true, Bool.false_eq_true, if_false, List.nil_append, List.cons_append, span]
    split
    · exact absurd rfl present
    case h_3 several => exact absurd (needless _ rfl) several
    all_goals
      simp only [Option.bind_eq_bind, Option.bind_some, Option.bind_none] at last ⊢
      split
      · rw [point]
        -- There is no fraction without digits.
        rename_i behind
        generalize spanDigits behind = parts
        obtain ⟨_ | ⟨digit, digits⟩, behind⟩ := parts
        · rfl
        · exact last _ _
      · rename_i noPoint
        rw [plain noPoint]
        exact last _ _

/-- A numeral that follows the rules is read as it is, up to where it ends. -/
theorem numeral?_chars {numeral : JsonNumeral} (formed : numeral.IsWellFormed) {rest : List Char}
    (ended : EndsNumeral rest) : numeral? (numeral.chars ++ rest) = some (numeral, rest) := by
  have parts := numeral?_eq numeral.negative formed.whole formed.present formed.needless
    (endsDigits_fractionChars numeral ended)
  unfold JsonNumeral.chars
  simp only [List.append_assoc]
  -- The parts are read one behind the other, each up to where the next one starts.
  rw [parts, fraction?_fractionChars formed ended, Option.bind_some,
    optionalExponent?_exponentChars formed ended]
  rfl

end JsonNode

namespace JsonNumeral

/-- The digits of a number other than zero do not start with a zero. -/
theorem head?_toDigits {number : Nat} (positive : number ≠ 0) :
    (Nat.toDigits 10 number).head? ≠ some '0' := by
  -- The digits of a number of several of them start as those of its tenth part.
  induction number using Nat.strongRecOn with
  | ind number ih =>
    rw [Nat.toDigits_eq_if (by decide)]
    split
    · rename_i small
      have all : ∀ digit < 10, digit ≠ 0 → digit.digitChar ≠ '0' := by decide
      simpa using all number small positive
    · rename_i large
      have tenth := ih (number / 10) (by omega) (by omega)
      rw [List.head?_append]
      cases first : (Nat.toDigits 10 (number / 10)).head? with
      | none => exact absurd (List.head?_eq_none_iff.mp first) Nat.toDigits_ne_nil
      | some digit => simpa [first] using tenth

/-- The numeral that an integer is written as. -/
def ofInteger (integer : Int) : JsonNumeral :=
  ⟨integer < 0, Nat.toDigits 10 integer.natAbs, [], none⟩

/-- The numeral that a decimal is written as, with a point or else with an exponent. -/
def ofDecimal (negative : Bool) (decimal : Decimal) : JsonNumeral :=
  let digits := Nat.toDigits 10 decimal.significand
  let point : Int := digits.length + decimal.exponent
  if -5 ≤ point - 1 ∧ point - 1 ≤ 15 then
    -- The point is behind all digits, among them, or in front.
    if 0 ≤ decimal.exponent then
      ⟨negative, digits ++ List.replicate decimal.exponent.toNat '0', ['0'], none⟩
    else if 0 < point then ⟨negative, digits.take point.toNat, digits.drop point.toNat, none⟩
    else ⟨negative, ['0'], List.replicate (-point).toNat '0' ++ digits, none⟩
  else
    ⟨negative, digits.take 1, digits.drop 1,
      some (point - 1 < 0, Nat.toDigits 10 (point - 1).natAbs)⟩

/-- The numeral that a double is written as. -/
def ofReal (number : Binary64) : JsonNumeral :=
  if number.magnitude = 0 then ⟨number.isNegative, ['0'], ['0'], none⟩
  else
    ofDecimal number.isNegative
      (shortest Format.binary64 JsonNumber.style.tieUp number.magnitude)

/-- Digits that do not start with a zero have no needless one. -/
theorem needless_of_head? {whole : List Char} (noZero : whole.head? ≠ some '0') :
    ∀ digits, whole = '0' :: digits → digits = [] := by
  rintro digits rfl
  exact absurd rfl noZero

/-- The numeral of an integer follows the rules. -/
theorem isWellFormed_ofInteger (integer : Int) : (ofInteger integer).IsWellFormed where
  whole := isDigit_toDigits
  present := Nat.toDigits_ne_nil
  needless := by
    -- A zero in front is needless unless it is the only digit.
    by_cases zero : integer.natAbs = 0
    · unfold ofInteger
      rw [zero]
      intro digits same
      exact (List.cons.inj same).2.symm
    · exact needless_of_head? (head?_toDigits zero)
  fraction := by simp [ofInteger]
  exponent := by simp [ofInteger]

/-- The numeral of a decimal follows the rules, unless it is a zero with zeros behind it. -/
theorem isWellFormed_ofDecimal (negative : Bool) {decimal : Decimal}
    (positive : decimal.significand ≠ 0 ∨ decimal = ⟨0, 17⟩) :
    (ofDecimal negative decimal).IsWellFormed := by
  have decimals : ∀ digit ∈ Nat.toDigits 10 decimal.significand, digit.isDigit = true :=
    isDigit_toDigits
  have present : Nat.toDigits 10 decimal.significand ≠ [] := Nat.toDigits_ne_nil
  have zeros : ∀ count : Nat, ∀ digit ∈ List.replicate count '0', digit.isDigit = true := by
    intro count digit member
    rw [List.eq_of_mem_replicate member]
    decide
  unfold ofDecimal
  simp only
  split
  · rename_i near
    -- The zero is too far from the point.
    have noZero : (Nat.toDigits 10 decimal.significand).head? ≠ some '0' := by
      rcases positive with positive | rfl
      · exact head?_toDigits positive
      · exact absurd near (by decide)
    split
    · exact {
        whole := List.forall_mem_append.mpr ⟨decimals, zeros _⟩
        present := List.append_ne_nil_of_left_ne_nil present _
        needless := needless_of_head? (by rwa [List.head?_append_of_ne_nil _ present])
        fraction := zeros 1
        exponent := nofun }
    · split
      · rename_i inside
        have reached : (Nat.toDigits 10 decimal.significand).length + decimal.exponent ≠ 0 := by
          omega
        exact {
          whole := fun digit member => decimals digit (List.mem_of_mem_take member)
          present := by simp [present]; omega
          needless := needless_of_head? (by rwa [List.head?_take, if_neg (by omega)])
          fraction := fun digit member => decimals digit (List.mem_of_mem_drop member)
          exponent := nofun }
      · -- The one digit in front of the point is the zero that has to stand there.
        exact {
          whole := zeros 1
          present := List.cons_ne_nil _ _
          needless := by simp
          fraction := List.forall_mem_append.mpr ⟨zeros _, decimals⟩
          exponent := nofun }
  · -- One digit in front of the point cannot be needless.
    exact {
      whole := fun digit member => decimals digit (List.mem_of_mem_take member)
      present := by simp [present]
      needless := by
        intro digits same
        have short := congrArg List.length same
        rw [List.length_take, List.length_cons] at short
        exact List.eq_nil_of_length_eq_zero (by omega)
      fraction := fun digit member => decimals digit (List.mem_of_mem_drop member)
      exponent := by
        intro below digits same
        rw [← (Prod.mk.inj (Option.some.inj same)).2]
        exact ⟨Nat.toDigits_ne_nil, isDigit_toDigits⟩ }

/-- A decimal whose leading digit is near the point is written with the point. -/
theorem chars_ofDecimal_positional (negative : Bool) {decimal : Decimal} {leading : Int}
    (first : (Nat.toDigits 10 decimal.significand).length + decimal.exponent - 1 = leading)
    (near : -5 ≤ leading ∧ leading ≤ 15) :
    (ofDecimal negative decimal).chars = (if negative then ['-'] else []) ++
      DecimalStyle.positional (Nat.toDigits 10 decimal.significand) decimal.exponent := by
  have present : Nat.toDigits 10 decimal.significand ≠ [] := Nat.toDigits_ne_nil
  unfold ofDecimal DecimalStyle.positional
  simp only [first, if_pos near]
  generalize Nat.toDigits 10 decimal.significand = digits at present
  -- The point is behind all digits, between two of them, or in front of all.
  by_cases whole : 0 ≤ decimal.exponent
  · simp [chars, fractionChars, exponentChars, whole]
  · by_cases inside : 0 < (digits.length : Int) + decimal.exponent
    · -- There are digits behind the point, as the exponent is negative.
      have behind : digits.drop (digits.length + decimal.exponent).toNat ≠ [] := by
        rw [ne_eq, List.drop_eq_nil_iff]
        omega
      simp [chars, fractionChars, exponentChars, whole, inside, behind]
    · -- All digits are behind the point, after as many zeros as it takes.
      simp [chars, fractionChars, exponentChars, whole, inside, present]

/-- A decimal whose leading digit is far from the point is written with an exponent. -/
theorem chars_ofDecimal_scientific (negative : Bool) {decimal : Decimal} {leading : Int}
    (first : (Nat.toDigits 10 decimal.significand).length + decimal.exponent - 1 = leading)
    (far : ¬ (-5 ≤ leading ∧ leading ≤ 15)) :
    (ofDecimal negative decimal).chars = (if negative then ['-'] else []) ++
      DecimalStyle.scientific true (Nat.toDigits 10 decimal.significand) leading := by
  have present : Nat.toDigits 10 decimal.significand ≠ [] := Nat.toDigits_ne_nil
  unfold ofDecimal DecimalStyle.scientific
  have sign : (if leading < 0 then ['-'] else ['+']) = [if leading < 0 then '-' else '+'] := by
    split <;> rfl
  simp only [first, if_neg far, if_true, sign]
  -- There is a point behind the first digit, unless it is the only one.
  match Nat.toDigits 10 decimal.significand, present with
  | [only], _ => simp [chars, fractionChars, exponentChars]
  | first :: second :: rest, _ => simp [chars, fractionChars, exponentChars]

/-- The numeral of a double follows the rules. -/
theorem isWellFormed_ofReal (number : Binary64) : (ofReal number).IsWellFormed := by
  unfold ofReal
  -- Zero has a numeral of its own, and other numbers have digits that are not all zero.
  split
  · exact ⟨by simp, by simp, by simp, by simp, nofun⟩
  · rename_i positive
    exact isWellFormed_ofDecimal _ (shortest_ne_zero _ _ positive)

end JsonNumeral

namespace JsonNumber

/-- The numeral that a number is written as. -/
def numeral : JsonNumber → JsonNumeral
  | .integer value => .ofInteger value.val
  | .real value => .ofReal value.val

/-- The numeral of a number follows the rules. -/
theorem isWellFormed_numeral (number : JsonNumber) : number.numeral.IsWellFormed := by
  cases number with
  | integer value => exact JsonNumeral.isWellFormed_ofInteger value.val
  | real value => exact JsonNumeral.isWellFormed_ofReal value.val

/-- An integer is written as its numeral. -/
theorem toList_text_integer (value : JsonInteger) :
    (integer value).text.toList = (JsonNumeral.ofInteger value.val).chars := by
  obtain ⟨integer, _⟩ := value
  -- A negative integer is written as a sign and the digits of its magnitude.
  cases integer with
  | ofNat number =>
    show (toString number).toList = _
    simp [JsonNumeral.ofInteger, JsonNumeral.chars, JsonNumeral.fractionChars,
      JsonNumeral.exponentChars]
  | negSucc number =>
    show ("-" ++ toString (number + 1)).toList = _
    simp [JsonNumeral.ofInteger, JsonNumeral.chars, JsonNumeral.fractionChars,
      JsonNumeral.exponentChars]

/-- A double is written as its numeral. -/
theorem toList_text_real (value : JsonReal) :
    (real value).text.toList = (JsonNumeral.ofReal value.val).chars := by
  show (style.finiteText value.val).toList = _
  unfold DecimalStyle.finiteText JsonNumeral.ofReal
  simp only
  -- Zero has a text of its own, and other numbers are written by where their point is.
  split
  · simp [JsonNumeral.chars, JsonNumeral.fractionChars, JsonNumeral.exponentChars]
  · rw [String.toList_ofList]
    generalize shortest Format.binary64 style.tieUp value.val.magnitude = decimal
    by_cases near : -5 ≤ ((Nat.toDigits 10 decimal.significand).length : Int) +
        decimal.exponent - 1 ∧
      ((Nat.toDigits 10 decimal.significand).length : Int) + decimal.exponent - 1 ≤ 15
    · rw [JsonNumeral.chars_ofDecimal_positional _ rfl near]
      refine congrArg _ (if_pos ?_)
      exact Bool.and_eq_true_iff.mpr ⟨decide_eq_true near.1, decide_eq_true near.2⟩
    · rw [JsonNumeral.chars_ofDecimal_scientific _ rfl near]
      refine congrArg _ (if_neg fun inside => near ?_)
      obtain ⟨above, below⟩ := Bool.and_eq_true_iff.mp inside
      exact ⟨of_decide_eq_true above, of_decide_eq_true below⟩

/-- A number is written as its numeral. -/
theorem toList_text (number : JsonNumber) : number.text.toList = number.numeral.chars := by
  cases number with
  | integer value => exact toList_text_integer value
  | real value => exact toList_text_real value

/-- The numeral of an integer that fits a word is read as that integer. -/
theorem toNumber?_numeral_integer (value : JsonInteger) :
    (integer value).numeral.toNumber? = some (.integer value) := by
  obtain ⟨integer, above, below⟩ := value
  have small : integer.natAbs < 0x10000000000000000 := by omega
  simp only [numeral, JsonNumeral.toNumber?, JsonNumeral.ofInteger, digitsValue_toDigits, true_and,
    small, if_true]
  -- A negative integer is read by its magnitude, which is at most that of the least one.
  by_cases negative : integer < 0
  · have fits : 0 < integer.natAbs ∧ integer.natAbs ≤ 0x8000000000000000 := by omega
    have same : -(integer.natAbs : Int) = integer := by omega
    rw [if_pos (by simpa using negative), dif_pos fits]
    simp only [same]
  · have same : (integer.natAbs : Int) = integer := by omega
    rw [if_neg (by simpa using negative), dif_pos trivial]
    simp only [same]

end JsonNumber

end RowQuery
