import RowQuery.Unicode.Alphanumeric
import RowQuery.Unicode.Blank
import RowQuery.Unicode.CaseMapping

/-!
Letters and numbers are no white space, and neither is what they become in the other case: the
ranges that the tables list lie apart, and shifts and expansions do not lead from one to the other.
-/

namespace RowQuery.Unicode

/-- Two lists of ranges lie apart. -/
def AreApart (ranges others : List (Nat × Nat)) : Prop :=
  ∀ range ∈ ranges, ∀ other ∈ others, range.2 < other.1 ∨ other.2 < range.1

instance (ranges others : List (Nat × Nat)) : Decidable (AreApart ranges others) :=
  inferInstanceAs (Decidable (∀ _ ∈ _, _))

/-- A code point in one list of ranges is in none that lies apart. -/
theorem AreApart.not_inRanges {ranges others : List (Nat × Nat)} (apart : AreApart ranges others)
    {code : Nat} (inside : inRanges ranges code = true) : inRanges others code = false := by
  unfold inRanges at inside ⊢
  obtain ⟨range, listed, within⟩ := List.any_eq_true.mp inside
  rw [List.any_eq_false]
  intro other listed' within'
  -- The code point would be in two ranges, one of which ends in front of the other.
  have split := apart range listed other listed'
  simp only [Bool.and_eq_true, decide_eq_true_eq] at within within'
  omega

/-- The code points that a shift leads to. -/
def CaseShift.target (shift : CaseShift) : Nat × Nat :=
  ((shift.run.first + shift.distance).toNat, (shift.run.last + shift.distance).toNat)

/-- A case mapping leads to visible characters: no shift leads to white space, and every expansion
starts with another character. -/
def LeadsToVisible (shifts : List CaseShift) (expansions : List (Nat × List Nat)) : Prop :=
  AreApart (shifts.map CaseShift.target) blankRanges ∧
    ∀ expansion ∈ expansions, ∃ first ∈ expansion.2.head?, isBlank (Char.ofNat first) = false

instance (shifts : List CaseShift) (expansions : List (Nat × List Nat)) :
    Decidable (LeadsToVisible shifts expansions) :=
  inferInstanceAs (Decidable (_ ∧ _))

/-- Characters of code points that are no white space are none, valid or not. -/
theorem isBlank_ofNat {code : Nat} (visible : inRanges blankRanges code = false) :
    isBlank (Char.ofNat code) = false := by
  by_cases valid : code.isValidChar
  · have same : Char.ofNat code = Char.ofNatAux code valid := dif_pos valid
    rw [same]
    exact visible
  · -- What is no code point becomes zero, which is no white space.
    have zero : Char.ofNat code = '\x00' := dif_neg valid
    rw [zero]
    decide

/-- A case mapping that leads to visible characters makes one of every visible character. -/
theorem LeadsToVisible.exists_mem_mapCase {shifts : List CaseShift}
    {expansions : List (Nat × List Nat)} (leads : LeadsToVisible shifts expansions) {char : Char}
    (visible : isBlank char = false) :
    ∃ mapped ∈ mapCase shifts expansions char.toNat, isBlank mapped = false := by
  obtain ⟨apart, starts⟩ := leads
  unfold mapCase
  split
  · -- The first character of an expansion is visible.
    rename_i expansion found
    obtain ⟨first, begins, shown⟩ := starts expansion (List.mem_of_find?_eq_some found)
    exact ⟨Char.ofNat first, List.mem_map_of_mem (List.mem_of_mem_head? begins), shown⟩
  · split
    · rename_i shift found
      refine ⟨_, List.mem_singleton_self _, isBlank_ofNat (apart.not_inRanges ?_)⟩
      -- The code point is as far into the target as the one it comes from is into the run.
      have within := List.find?_some found
      simp only [CodeRun.contains, Bool.and_eq_true, decide_eq_true_eq] at within
      refine List.any_eq_true.mpr
        ⟨shift.target, List.mem_map_of_mem (List.mem_of_find?_eq_some found), ?_⟩
      simp only [CaseShift.target, Bool.and_eq_true]
      exact ⟨decide_eq_true (by omega), decide_eq_true (by omega)⟩
    · -- A character without a mapping stays as it is.
      refine ⟨_, List.mem_singleton_self _, ?_⟩
      rwa [Char.ofNat_toNat]

/-- Letters and numbers of ASCII are visible in either case. -/
theorem isBlank_of_isAlphanum {char : Char} (ascii : char.toNat < 0x80)
    (letter : char.isAlphanum = true) :
    isBlank char = false ∧ isBlank char.toLower = false ∧ isBlank char.toUpper = false := by
  -- There are few enough to look at each of them.
  have each : ∀ code < 0x80, (Char.ofNat code).isAlphanum = true →
      isBlank (Char.ofNat code) = false ∧ isBlank (Char.ofNat code).toLower = false ∧
        isBlank (Char.ofNat code).toUpper = false := by
    decide +kernel
  have this := each char.toNat ascii
  rw [Char.ofNat_toNat] at this
  exact this letter

/-- Letters and numbers are visible. -/
theorem isBlank_of_isAlphanumeric {char : Char} (letter : isAlphanumeric char = true) :
    isBlank char = false := by
  -- Neither the table of the basic plane nor that of the others meets the white space.
  have basic : AreApart basicAlphanumeric blankRanges := by decide +kernel
  have supplementary : AreApart supplementaryAlphanumeric blankRanges := by decide +kernel
  unfold isAlphanumeric at letter
  split at letter
  · rename_i ascii
    exact (isBlank_of_isAlphanum ascii letter).1
  · split at letter
    · exact basic.not_inRanges letter
    · exact supplementary.not_inRanges letter

/-- Letters and numbers stay visible as small letters. -/
theorem exists_mem_toLowercase {char : Char} (letter : isAlphanumeric char = true) :
    ∃ mapped ∈ toLowercase char, isBlank mapped = false := by
  -- The tables are looked through once, and characters of one byte are mapped without them.
  have leads : LeadsToVisible lowercaseShifts lowercaseExpansions := by decide +kernel
  have visible := isBlank_of_isAlphanumeric letter
  unfold toLowercase
  split
  · rename_i ascii
    rw [isAlphanumeric, if_pos ascii] at letter
    exact ⟨_, List.mem_singleton_self _, (isBlank_of_isAlphanum ascii letter).2.1⟩
  · exact leads.exists_mem_mapCase visible

/-- Letters and numbers stay visible as capitals. -/
theorem exists_mem_toUppercase {char : Char} (letter : isAlphanumeric char = true) :
    ∃ mapped ∈ toUppercase char, isBlank mapped = false := by
  -- The tables are looked through once, and characters of one byte are mapped without them.
  have leads : LeadsToVisible uppercaseShifts uppercaseExpansions := by decide +kernel
  have visible := isBlank_of_isAlphanumeric letter
  unfold toUppercase
  split
  · rename_i ascii
    rw [isAlphanumeric, if_pos ascii] at letter
    exact ⟨_, List.mem_singleton_self _, (isBlank_of_isAlphanum ascii letter).2.2⟩
  · exact leads.exists_mem_mapCase visible

end RowQuery.Unicode
