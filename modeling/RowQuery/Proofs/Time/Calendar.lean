import RowQuery.Time.Calendar

/-!
Days and dates. Every day has a date that exists, and the day of that date is the day.
-/

namespace RowQuery.Time.Date

/-- The year that a day belongs to, both counted from the start of four centuries that begin in
March. -/
def yearOfEra (day : Int) : Int :=
  (day - day / 1460 + day / 36524 - day / 146096) / 365

/-- The days in front of a year, both counted from the start of four centuries that begin in
March. -/
def daysBefore (year : Int) : Int :=
  365 * year + year / 4 - year / 100

/-- In the first three centuries, and in the fourth up to the leap day behind it, every fourth year
is longer by a day. -/
theorem yearOfEra_of_century {day century : Int}
    (early : century = 0 ∨ century = 1 ∨ century = 2 ∨ century = 3)
    (first : 36524 * century ≤ day) (last : day < 36524 * (century + 1)) :
    ∃ year, yearOfEra day = 100 * century + year ∧ 0 ≤ year ∧ year ≤ 99 ∧
      36524 * century + 365 * year + year / 4 ≤ day ∧
      day < 36524 * century + 365 * (year + 1) + (year + 1) / 4 := by
  have centuries : day / 36524 = century := by omega
  have noEra : day / 146096 = 0 := by omega
  -- The days are grouped by 1460, so that each group falls a day short of four years.
  generalize groups : (day - 36500 * century) / 1460 = cycle
  have shorter : day / 1460 = 25 * century + cycle := by omega
  generalize behind : day - 36500 * century - 1460 * cycle - 24 * century - cycle = rest
  have quotient : (day - (25 * century + cycle) + century - 0) / 365 =
      100 * century + (4 * cycle + rest / 365) := by omega
  -- What the groups fall short of may reach back into the last year of the four before.
  have years : rest / 365 = -1 ∨ rest / 365 = 0 ∨ rest / 365 = 1 ∨ rest / 365 = 2 ∨
      rest / 365 = 3 := by omega
  refine ⟨4 * cycle + rest / 365, ?_, ?_⟩
  · unfold yearOfEra
    rw [centuries, noEra, shorter, quotient]
  · rcases years with year | year | year | year | year <;> rw [year] <;>
      refine ⟨?_, ?_, ?_, ?_⟩ <;> omega

/-- The days in front of a year, by its century and its place in the century. -/
theorem daysBefore_of_century {century year : Int} (first : 0 ≤ year) (last : year ≤ 99) :
    daysBefore (100 * century + year) = 36524 * century + 365 * year + year / 4 := by
  -- The leap days are counted by fourths, without the centuries.
  have fourths : (100 * century + year) / 4 = 25 * century + year / 4 := by omega
  have centuries : (100 * century + year) / 100 = century := by omega
  unfold daysBefore
  rw [fourths, centuries]
  omega

/-- A day lies in its year: behind the days in front of the year, and in front of those in front of
the next, except for the leap day at the end of four centuries. -/
theorem bounds_yearOfEra {day : Int} (first : 0 ≤ day) (last : day < 146097) :
    (0 ≤ yearOfEra day ∧ yearOfEra day ≤ 399) ∧ daysBefore (yearOfEra day) ≤ day ∧
      (day < daysBefore (yearOfEra day + 1) ∨ yearOfEra day = 399 ∧ day = 146096) := by
  by_cases leap : day = 146096
  · -- The leap day behind the fourth century is the one day past a hundred years of it.
    subst leap
    decide
  · generalize century_eq : day / 36524 = century
    have early : century = 0 ∨ century = 1 ∨ century = 2 ∨ century = 3 := by omega
    obtain ⟨year, same, _, _, begun, ended⟩ :=
      yearOfEra_of_century early (by omega) (by omega : day < 36524 * (century + 1))
    rw [same, daysBefore_of_century (by omega) (by omega)]
    refine ⟨by omega, begun, .inl ?_⟩
    -- The next year may be the first of the next century.
    by_cases within : year + 1 ≤ 99
    · rw [Int.add_assoc, daysBefore_of_century (by omega) within]
      exact ended
    · have next : 100 * century + year + 1 = 100 * (century + 1) + 0 := by omega
      rw [next, daysBefore_of_century (by omega) (by omega)]
      omega

/-- The day of the year, counted from the first of March. -/
def dayOfYear (day : Int) : Int :=
  day - daysBefore (yearOfEra day)

/-- Leap years repeat every four centuries. -/
theorem isLeapYear_add_mul (year era : Int) : isLeapYear (year + era * 400) = isLeapYear year := by
  -- Four centuries are a multiple of each of the three cycles.
  have fourths : (year + era * 400) % 4 = year % 4 := by omega
  have centuries : (year + era * 400) % 100 = year % 100 := by omega
  have eras : (year + era * 400) % 400 = year % 400 := by omega
  unfold isLeapYear
  rw [fourths, centuries, eras]

/-- A year has at most 366 days, and that many only if the next year has a leap day. -/
theorem bounds_dayOfYear {day : Int} (first : 0 ≤ day) (last : day < 146097) :
    0 ≤ dayOfYear day ∧ dayOfYear day ≤ 365 ∧
      (dayOfYear day = 365 → isLeapYear (yearOfEra day + 1) = true) := by
  obtain ⟨⟨lower, upper⟩, begun, ended⟩ := bounds_yearOfEra first last
  unfold dayOfYear
  generalize yearOfEra day = year at lower upper begun ended ⊢
  unfold daysBefore at begun ended ⊢
  refine ⟨by omega, by omega, ?_⟩
  intro longest
  -- Such a day is the last of its year, or the leap day behind four centuries.
  rcases ended with ended | ⟨rfl, _⟩
  · -- The year is longer than 365 days only if a leap day is counted behind it.
    have fourth : (year + 1) / 4 = year / 4 + 1 := by omega
    have century : (year + 1) / 100 = year / 100 := by omega
    have divides : (year + 1) % 4 = 0 := by omega
    have remains : (year + 1) % 100 ≠ 0 := by omega
    simp [isLeapYear, divides, remains]
  · decide

/-- The date of a day, by the day within its four centuries. -/
theorem ofDayNumber_eq (number : Int) :
    ofDayNumber number =
      let day := (number + 719468) % 146097
      let monthFromMarch := (5 * dayOfYear day + 2) / 153
      let month := if monthFromMarch < 10 then monthFromMarch + 3 else monthFromMarch - 9
      let year := yearOfEra day + (number + 719468) / 146097 * 400
      ⟨if month ≤ 2 then year + 1 else year, month.toNat,
        (dayOfYear day - (153 * monthFromMarch + 2) / 5 + 1).toNat⟩ := by
  have days : ∀ day, dayOfYear day =
      day - (365 * yearOfEra day + yearOfEra day / 4 - yearOfEra day / 100) := fun _ => rfl
  simp only [days]
  rfl

/-- The day of the date of a day is the day. -/
theorem dayNumber_ofDayNumber (number : Int) : (ofDayNumber number).dayNumber = number := by
  have within : 0 ≤ (number + 719468) % 146097 ∧ (number + 719468) % 146097 < 146097 := by omega
  have parts := Int.emod_add_mul_ediv (number + 719468) 146097
  obtain ⟨⟨lower, upper⟩, _⟩ := bounds_yearOfEra within.1 within.2
  obtain ⟨first, last, _⟩ := bounds_dayOfYear within.1 within.2
  have back : (number + 719468) % 146097 = daysBefore (yearOfEra ((number + 719468) % 146097)) +
      dayOfYear ((number + 719468) % 146097) := by
    unfold dayOfYear
    omega
  rw [ofDayNumber_eq]
  simp only
  -- From here on only the era, the year in it and the day of that year matter.
  generalize (number + 719468) % 146097 = day at back parts first last lower upper ⊢
  generalize (number + 719468) / 146097 = era at parts ⊢
  generalize yearOfEra day = year at lower upper back ⊢
  generalize dayOfYear day = rest at first last back ⊢
  unfold daysBefore at back
  generalize month : (5 * rest + 2) / 153 = fromMarch
  unfold dayNumber
  simp only
  have months : 0 ≤ fromMarch ∧ fromMarch ≤ 11 := by omega
  have days : 0 ≤ rest - (153 * fromMarch + 2) / 5 + 1 := by omega
  have days' := Int.toNat_of_nonneg days
  -- The year in the era and the era are found again.
  have cycles : (year + era * 400) % 400 = year ∧ (year + era * 400) / 400 = era := by omega
  -- Ten months are in the year that the day belongs to, and two in the next.
  by_cases early : fromMarch < 10
  · rw [if_pos early]
    have later : ¬ fromMarch + 3 ≤ 2 := by omega
    have later' : ¬ (fromMarch + 3).toNat ≤ 2 := by omega
    have month := Int.toNat_of_nonneg (show 0 ≤ fromMarch + 3 by omega)
    simp only [if_neg later, if_neg later', cycles.1, cycles.2, month, days']
    have same : fromMarch + 3 - 3 = fromMarch := by omega
    rw [same]
    omega
  · rw [if_neg early]
    have later : fromMarch - 9 ≤ 2 := by omega
    have later' : (fromMarch - 9).toNat ≤ 2 := by omega
    have month := Int.toNat_of_nonneg (show 0 ≤ fromMarch - 9 by omega)
    have back : year + era * 400 + 1 - 1 = year + era * 400 := by omega
    simp only [if_pos later, if_pos later', back, cycles.1, cycles.2, month, days']
    have same : fromMarch - 9 + 9 = fromMarch := by omega
    rw [same]
    omega

/-- The months from March to January are as long as the count of days that leads to them says. -/
theorem daysInMonth_fromMarch (year : Int) {fromMarch : Int} (first : 0 ≤ fromMarch)
    (last : fromMarch ≤ 10) :
    (daysInMonth year (if fromMarch < 10 then fromMarch + 3 else fromMarch - 9).toNat : Int) =
      (153 * (fromMarch + 1) + 2) / 5 - (153 * fromMarch + 2) / 5 := by
  -- There are eleven of them; February is left out, as its length depends on the year.
  have months : fromMarch = 0 ∨ fromMarch = 1 ∨ fromMarch = 2 ∨ fromMarch = 3 ∨ fromMarch = 4 ∨
      fromMarch = 5 ∨ fromMarch = 6 ∨ fromMarch = 7 ∨ fromMarch = 8 ∨ fromMarch = 9 ∨
      fromMarch = 10 := by omega
  rcases months with rfl | rfl | rfl | rfl | rfl | rfl | rfl | rfl | rfl | rfl | rfl <;> rfl

/-- The date of a day exists. -/
theorem isValid_ofDayNumber (number : Int) : (ofDayNumber number).isValid = true := by
  have within : 0 ≤ (number + 719468) % 146097 ∧ (number + 719468) % 146097 < 146097 := by omega
  obtain ⟨first, last, leap⟩ := bounds_dayOfYear within.1 within.2
  rw [ofDayNumber_eq]
  simp only
  generalize (number + 719468) % 146097 = day at first last leap ⊢
  generalize (number + 719468) / 146097 = era
  -- A leap day belongs to the next year, which begins two months before it.
  rw [← isLeapYear_add_mul _ era, Int.add_right_comm] at leap
  generalize yearOfEra day + era * 400 = year at leap ⊢
  generalize dayOfYear day = rest at first last leap ⊢
  generalize month_eq : (5 * rest + 2) / 153 = fromMarch
  have months : 0 ≤ fromMarch ∧ fromMarch ≤ 11 := by omega
  simp only [isValid, Bool.and_eq_true, decide_eq_true_eq]
  by_cases february : fromMarch = 11
  · -- The last day of February is the last of a year of 366 days.
    subst february
    have length : daysInMonth (year + 1) 2 = if isLeapYear (year + 1) then 29 else 28 := rfl
    simp only [show ¬ ((11 : Int) < 10) by decide, if_false, show (11 - 9 : Int) = 2 by decide,
      show (2 : Int) ≤ 2 by decide, if_true, show (2 : Int).toNat = 2 from rfl, length]
    refine ⟨⟨⟨by decide, by decide⟩, by omega⟩, ?_⟩
    by_cases longest : rest = 365
    · rw [leap longest, if_pos rfl]
      omega
    · split <;> omega
  · -- Every other month ends where the days that lead to the next one begin.
    have length := daysInMonth_fromMarch
      (if (if fromMarch < 10 then fromMarch + 3 else fromMarch - 9) ≤ 2 then year + 1 else year)
      months.1 (by omega)
    refine ⟨⟨⟨?_, ?_⟩, ?_⟩, ?_⟩
    · split <;> omega
    · split <;> omega
    · omega
    · omega

end RowQuery.Time.Date
