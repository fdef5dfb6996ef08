import RowQuery.Time.Reader
import RowQuery.Proofs.Text.Digits
import RowQuery.Proofs.Time.Calendar

/-!
Moments and their texts. The text of a moment is read back as that moment, unless its nanoseconds
count a leap second: the text has no place for one except at the end of a minute.
-/

namespace RowQuery.Time

open Text Unicode

/-- Digits are no blanks. -/
theorem isBlank_of_isDigit {char : Char} (digit : char.isDigit = true) : isBlank char = false := by
  -- The digits lie between the blanks that are controls or a space and those beyond ASCII.
  have code := Char.isDigit_iff_toNat.mp digit
  rw [show '0'.toNat = 48 from rfl, show '9'.toNat = 57 from rfl] at code
  unfold isBlank inRanges blankRanges
  simp
  omega

/-- There are no blanks in front of a text that starts with a digit or with one of the marks between
the parts of a moment. -/
theorem dropBlank_cons {first : Char}
    (starts : first.isDigit = true ∨ first = '-' ∨ first = '+' ∨ first = ':' ∨ first = 'Z')
    (rest : List Char) : dropBlank (first :: rest) = first :: rest := by
  -- The marks are looked at one by one.
  have noBlank : isBlank first = false := by
    rcases starts with digit | rfl | rfl | rfl | rfl
    · exact isBlank_of_isDigit digit
    all_goals decide
  unfold dropBlank
  rw [List.dropWhile_cons_of_neg (by simp [noBlank])]

/-- A padded number starts with a digit. -/
theorem exists_cons_padded (width number : Nat) :
    ∃ first rest, padded width number = first :: rest ∧ first.isDigit = true := by
  -- A number has a digit, whatever it is padded with.
  have present : padded width number ≠ [] := by
    unfold padded
    exact List.append_ne_nil_of_right_ne_nil _ Nat.toDigits_ne_nil
  obtain ⟨first, rest, same⟩ := List.exists_cons_of_ne_nil present
  exact ⟨first, rest, same, isDigit_padded first (by rw [same]; exact List.mem_cons_self)⟩

/-- Digits are read up to as many as are allowed, or up to where they end. -/
theorem digitsUpTo?_append {most : Nat} {digits rest : List Char}
    (decimal : ∀ digit ∈ digits, digit.isDigit = true) (present : digits ≠ [])
    (within : digits.length ≤ most) (ended : digits.length = most ∨ EndsDigits rest) :
    digitsUpTo? most (digits ++ rest) = some (digits, rest) := by
  -- No more may be read, or no more digits are there.
  have stop : EndsDigits (rest.take (most - digits.length)) := by
    rcases ended with all | ended
    · intro first found
      simp [all] at found
    · exact ended.take _
  have front : ((digits ++ rest).take most).takeWhile Char.isDigit = digits := by
    rw [List.take_append, List.take_of_length_le within]
    exact (takeWhile_isDigit_append decimal stop).1
  unfold digitsUpTo?
  simp only [front, if_neg present, List.drop_left]

/-- A padded number is read as its digits where digits are read up to their end. -/
theorem digitsUpTo?_padded {most : Nat} (width number : Nat)
    (within : (padded width number).length ≤ most) {rest : List Char}
    (ended : (padded width number).length = most ∨ EndsDigits rest) :
    digitsUpTo? most (padded width number ++ rest) = some (padded width number, rest) := by
  obtain ⟨first, behind, same, _⟩ := exists_cons_padded width number
  apply digitsUpTo?_append isDigit_padded _ within ended
  rw [same]
  exact List.cons_ne_nil first behind

/-- There are no blanks in front of a padded number. -/
theorem dropBlank_padded (width number : Nat) (rest : List Char) :
    dropBlank (padded width number ++ rest) = padded width number ++ rest := by
  obtain ⟨first, behind, same, digit⟩ := exists_cons_padded width number
  rw [same, List.cons_append, dropBlank_cons (.inl digit)]

/-- There is no sign in front of a padded number. -/
theorem padded_append_ne_sign {sign : Char} (noDigit : sign.isDigit = false) (width number : Nat)
    (rest other : List Char) : padded width number ++ rest ≠ sign :: other := by
  intro signed
  obtain ⟨first, behind, same, digit⟩ := exists_cons_padded width number
  rw [same, List.cons_append, List.cons.injEq] at signed
  -- The same character would be a digit and none.
  rw [signed.1, noDigit] at digit
  contradiction

/-- A number of two digits is read within its bounds. -/
theorem field?_padded {least greatest number : Nat} (above : least ≤ number)
    (below : number ≤ greatest) (short : number < 100) (rest : List Char) :
    field? least greatest (padded 2 number ++ rest) = some (number, rest) := by
  have length := length_padded (show 0 < 2 by decide) short
  -- Both digits are read, whatever follows them.
  have read : digitsUpTo? 2 (padded 2 number ++ rest) = some (padded 2 number, rest) :=
    digitsUpTo?_padded 2 number (Nat.le_of_eq length) (.inl length)
  unfold field?
  rw [dropBlank_padded, read]
  simp [digitsValue_padded, above, below]

/-- An expected mark is read. -/
theorem expect?_cons (mark : Char) (rest : List Char) :
    expect? mark (mark :: rest) = some rest := by
  simp [expect?]

/-- A year is read up to the hyphen behind it. -/
theorem year?_yearText (year : Int) (rest : List Char) :
    year? (Timestamp.yearText year ++ '-' :: rest) = some (year, '-' :: rest) := by
  unfold Timestamp.yearText
  by_cases plain : 0 ≤ year ∧ year ≤ 9999
  · have length := length_padded (show 0 < 4 by decide) (show year.toNat < 10 ^ 4 by omega)
    have read : digitsUpTo? 4 (padded 4 year.toNat ++ '-' :: rest) =
        some (padded 4 year.toNat, '-' :: rest) :=
      digitsUpTo?_padded 4 year.toNat (Nat.le_of_eq length) (.inl length)
    rw [if_pos plain]
    unfold year?
    rw [dropBlank_padded]
    -- The year starts with a digit, so it has no sign.
    split
    · rename_i signed
      exact absurd signed (padded_append_ne_sign (by decide) 4 _ _ _)
    · rename_i signed
      exact absurd signed (padded_append_ne_sign (by decide) 4 _ _ _)
    · simp only [read, Option.map_some, digitsValue_padded, Int.toNat_of_nonneg plain.1]
  · -- Behind a sign there may be any number of digits, which the hyphen ends.
    have read : digitsUpTo? (padded 4 year.natAbs ++ '-' :: rest).length
        (padded 4 year.natAbs ++ '-' :: rest) = some (padded 4 year.natAbs, '-' :: rest) := by
      apply digitsUpTo?_padded 4 year.natAbs
      · rw [List.length_append]
        omega
      · exact .inr (endsDigits_cons (by decide) rest)
    rw [if_neg plain]
    by_cases negative : year < 0
    · have magnitude : -(year.natAbs : Int) = year := by omega
      rw [if_pos negative]
      unfold year?
      rw [List.cons_append, dropBlank_cons (.inr (.inl rfl))]
      simp only [read, Option.map_some, digitsValue_padded, magnitude]
    · have magnitude : (year.natAbs : Int) = year := by omega
      rw [if_neg negative]
      unfold year?
      rw [List.cons_append, dropBlank_cons (.inr (.inr (.inl rfl)))]
      simp only [read, Option.map_some, digitsValue_padded, magnitude]

/-- A date that exists is read from its year, month and day. -/
theorem date?_chars {date : Date} (valid : date.isValid = true) (rest : List Char) :
    date? (Timestamp.yearText date.year ++ '-' :: (padded 2 date.month ++
      '-' :: (padded 2 date.day ++ rest))) = some (date, rest) := by
  have parts := valid
  simp only [Date.isValid, Bool.and_eq_true, decide_eq_true_eq] at parts
  obtain ⟨⟨⟨firstMonth, lastMonth⟩, firstDay⟩, lastDay⟩ := parts
  -- No month is longer than 31 days.
  have longest : daysInMonth date.year date.month ≤ 31 := by
    unfold daysInMonth
    split
    · split <;> omega
    · split <;> omega
  -- Each part is read in front of the mark that leads to the next.
  have year := year?_yearText date.year
    (padded 2 date.month ++ '-' :: (padded 2 date.day ++ rest))
  have month := field?_padded firstMonth lastMonth (by omega) ('-' :: (padded 2 date.day ++ rest))
  have day := field?_padded firstDay (show date.day ≤ 31 by omega) (by omega) rest
  unfold date?
  simp only [year, dropBlank_cons (.inr (.inl rfl)), expect?_cons, month, day, Bind.bind,
    Option.bind_some, valid, if_true]

/-- A fraction of so many digits is read as nanoseconds, up to the mark behind it. -/
theorem fraction?_padded {width number : Nat} (positive : 0 < width) (within : width ≤ 9)
    (fits : number < 10 ^ width) (rest : List Char) :
    fraction? ('.' :: padded width number ++ 'Z' :: rest) =
      some (number * 10 ^ (9 - width), 'Z' :: rest) := by
  have length := length_padded positive fits
  have read : digitsUpTo? 9 (padded width number ++ 'Z' :: rest) =
      some (padded width number, 'Z' :: rest) := by
    apply digitsUpTo?_padded width number
    · rw [length]
      exact within
    · exact .inr (endsDigits_cons (by decide) rest)
  -- There are no more digits to be skipped behind these.
  have noDigit : ('Z' :: rest).dropWhile Char.isDigit = 'Z' :: rest :=
    List.dropWhile_cons_of_neg (by decide)
  unfold fraction?
  simp only [List.cons_append, read, Bind.bind, Option.bind_some, digitsValue_padded, length,
    noDigit]
  rfl

/-- The nanoseconds of a moment are read from as many digits as they need. -/
theorem fraction?_fractionText {nanoseconds : Nat} (fits : nanoseconds < 1000000000)
    (rest : List Char) :
    fraction? (Timestamp.fractionText nanoseconds ++ 'Z' :: rest) =
      some (nanoseconds, 'Z' :: rest) := by
  unfold Timestamp.fractionText
  -- The digits that are left out are zeros.
  split
  · rename_i none
    rw [none, List.nil_append]
    rfl
  · split
    · rename_i milli
      rw [fraction?_padded (by decide) (by decide) (by omega)]
      congr 2
      omega
    · split
      · rename_i micro
        rw [fraction?_padded (by decide) (by decide) (by omega)]
        congr 2
        omega
      · rw [fraction?_padded (by decide) (by decide) (by omega)]
        congr 2
        omega

/-- A time of day is read from its hour, minute and second and the fraction behind them. -/
theorem timeOfDay?_chars {second nanoseconds : Nat} (day : second < 86400)
    (fits : nanoseconds < 1000000000) (rest : List Char) :
    timeOfDay? (padded 2 (second / 3600) ++ ':' :: (padded 2 (second / 60 % 60) ++
      ':' :: (padded 2 (second % 60) ++ (Timestamp.fractionText nanoseconds ++ 'Z' :: rest)))) =
        some ((second, nanoseconds), 'Z' :: rest) := by
  -- Each field is within its bounds, as the second is one of a day.
  have hours := field?_padded (Nat.zero_le _) (show second / 3600 ≤ 23 by omega) (by omega)
    (':' :: (padded 2 (second / 60 % 60) ++
      ':' :: (padded 2 (second % 60) ++ (Timestamp.fractionText nanoseconds ++ 'Z' :: rest))))
  have minutes := field?_padded (Nat.zero_le _) (show second / 60 % 60 ≤ 59 by omega) (by omega)
    (':' :: (padded 2 (second % 60) ++ (Timestamp.fractionText nanoseconds ++ 'Z' :: rest)))
  have seconds := field?_padded (Nat.zero_le _) (show second % 60 ≤ 60 by omega) (by omega)
    (Timestamp.fractionText nanoseconds ++ 'Z' :: rest)
  have noLeap : ¬ second % 60 = 60 := by omega
  have whole : second / 3600 * 3600 + second / 60 % 60 * 60 + second % 60 = second := by omega
  unfold timeOfDay?
  simp only [hours, dropBlank_cons (.inr (.inr (.inr (.inl rfl)))), expect?_cons, minutes, seconds,
    fraction?_fractionText fits, Bind.bind, Option.bind_some, if_neg noLeap, whole]

/-- The moment with the parts of a timestamp is that timestamp. -/
theorem Timestamp.ofParts?_self (timestamp : Timestamp) :
    ofParts? timestamp.seconds timestamp.nanoseconds = some timestamp := by
  unfold ofParts?
  rw [dif_pos timestamp.inRange, dif_pos timestamp.fraction]

/-- The text of a moment is read as that moment, unless its nanoseconds count a leap second. -/
theorem Timestamp.ofText?_text {timestamp : Timestamp}
    (noLeap : timestamp.nanoseconds < 1000000000) : ofText? timestamp.text = some timestamp := by
  have within : (timestamp.seconds % 86400).toNat < 86400 := by omega
  -- The date is that of a day, so it exists.
  have date := date?_chars (Date.isValid_ofDayNumber (timestamp.seconds / 86400))
  have time := timeOfDay?_chars within noLeap []
  -- Without a leap second the text shows the second and the nanoseconds themselves.
  have second : timestamp.nanoseconds / 1000000000 = 0 := by omega
  have fraction : timestamp.nanoseconds % 1000000000 = timestamp.nanoseconds := by omega
  -- The day of the date and the second of the day make up the seconds again.
  have localTime : (Date.ofDayNumber (timestamp.seconds / 86400)).dayNumber * 86400 +
      ((timestamp.seconds % 86400).toNat : Int) = timestamp.seconds := by
    rw [Date.dayNumber_ofDayNumber]
    omega
  have moment : moment? timestamp.text.toList = some (timestamp, []) := by
    unfold text chars moment?
    rw [String.toList_ofList]
    have zone : zone? ['Z'] = some (0, []) := rfl
    simp only [second, fraction, Nat.add_zero, List.append_assoc, List.cons_append, date, time,
      Bind.bind, Option.bind_some, dropBlank_cons (.inr (.inr (.inr (.inr rfl)))), zone, localTime,
      Int.sub_zero, ofParts?_self]
    rfl
  unfold ofText?
  simp only [moment, Bind.bind, Option.bind_some]
  rfl

end RowQuery.Time
