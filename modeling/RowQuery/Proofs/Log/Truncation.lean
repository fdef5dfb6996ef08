import Mathlib.Data.List.Infix
import RowQuery.Log
import RowQuery.Proofs.Text.ByteOrder

/-!
Texts cut off in reports. What is shown of a text that is too long is its longest prefix of whole
characters within the limit, which ends at the last boundary of characters that a walk back from the
limit finds.
-/

namespace RowQuery

open Text

/-- The number of bytes that characters take. -/
def byteCount (chars : List Char) : Nat :=
  (String.ofList chars).utf8ByteSize

@[simp] theorem byteCount_cons (char : Char) (rest : List Char) :
    byteCount (char :: rest) = char.utf8Size + byteCount rest := by
  simp [byteCount]

@[simp] theorem byteCount_append (front back : List Char) :
    byteCount (front ++ back) = byteCount front + byteCount back := by
  simp [byteCount]

/-- A prefix takes no more bytes than the whole. -/
theorem byteCount_le_of_front {front text : List Char} (starts : front <+: text) :
    byteCount front ≤ byteCount text := by
  obtain ⟨back, rfl⟩ := starts
  rw [byteCount_append]
  omega

/-- What is kept of a text starts it. -/
theorem withinBytes_starts (most : Nat) (text : List Char) : withinBytes most text <+: text := by
  induction text generalizing most with
  | nil => exact List.prefix_refl _
  | cons char rest ih =>
    rw [withinBytes]
    split
    · exact (List.prefix_cons_inj char).mpr (ih _)
    · -- Nothing is kept from the first character on that does not fit.
      exact List.nil_prefix

/-- What is kept of a text takes no more bytes than given. -/
theorem byteCount_withinBytes_le (most : Nat) (text : List Char) :
    byteCount (withinBytes most text) ≤ most := by
  induction text generalizing most with
  | nil => exact Nat.zero_le _
  | cons char rest ih =>
    rw [withinBytes]
    split
    · -- The character fits, and the rest has the bytes that it leaves.
      have kept : byteCount (withinBytes (most - char.utf8Size) rest) ≤ most - char.utf8Size :=
        ih (most - char.utf8Size)
      rw [byteCount_cons]
      omega
    · exact Nat.zero_le _

/-- Every prefix that takes no more bytes than given starts what is kept. -/
theorem prefix_withinBytes {most : Nat} {front text : List Char} (starts : front <+: text)
    (fits : byteCount front ≤ most) : front <+: withinBytes most text := by
  -- The induction is on the text; a prefix that is not empty takes the first character with it.
  induction text generalizing most front with
  | nil => exact starts
  | cons char rest ih =>
    cases front with
    | nil => exact List.nil_prefix
    | cons first others =>
      obtain ⟨rfl, behind⟩ := List.cons_prefix_cons.mp starts
      rw [byteCount_cons] at fits
      -- The first character fits with the others, so it fits alone and is kept.
      have alone : first.utf8Size ≤ most := by omega
      rw [withinBytes, if_pos alone]
      exact (List.prefix_cons_inj first).mpr (ih behind (by omega))

/-- A text that fits is kept as it is. -/
theorem withinBytes_of_fits {most : Nat} {text : List Char} (fits : byteCount text ≤ most) :
    withinBytes most text = text := by
  -- The whole text is one of its prefixes that fit.
  have whole : text <+: withinBytes most text := prefix_withinBytes (List.prefix_refl text) fits
  exact (withinBytes_starts most text).eq_of_length_le whole.length_le

/-- More bytes keep no less of a text. -/
theorem withinBytes_mono {most more : Nat} (grows : most ≤ more) (text : List Char) :
    withinBytes most text <+: withinBytes more text := by
  -- What is kept within fewer bytes is a prefix that fits into more.
  have fits : byteCount (withinBytes most text) ≤ more :=
    (byteCount_withinBytes_le most text).trans grows
  exact prefix_withinBytes (withinBytes_starts most text) fits

/-- Of a text that does not fit, all bytes are kept but for at most three. -/
theorem le_byteCount_withinBytes {most : Nat} {text : List Char} (exceeds : most < byteCount text) :
    most ≤ byteCount (withinBytes most text) + 3 := by
  induction text generalizing most with
  | nil => exact absurd exceeds (Nat.not_lt_zero _)
  | cons char rest ih =>
    rw [byteCount_cons] at exceeds
    rw [withinBytes]
    split
    · have kept : most - char.utf8Size ≤
          byteCount (withinBytes (most - char.utf8Size) rest) + 3 := ih (by omega)
      rw [byteCount_cons]
      omega
    · -- The first character that is left out takes four bytes at most.
      have width := char.utf8Size_le_four
      omega

/-- Characters begin and end in a text exactly where one of its prefixes ends. -/
theorem isValid_iff_exists_front {sql : String} {place : Nat} :
    String.Pos.Raw.IsValid sql ⟨place⟩ ↔
      ∃ front, front <+: sql.toList ∧ byteCount front = place := by
  constructor
  · intro valid
    -- The bytes in front of the place are those of a text on their own.
    obtain ⟨front, back, bytes, whole⟩ := valid.exists
    refine ⟨front, ⟨back, by rw [← whole, String.toList_ofList]⟩, ?_⟩
    have inside : place ≤ sql.utf8ByteSize := valid.le_utf8ByteSize
    rw [byteCount, ← String.size_toByteArray, String.toByteArray_ofList, bytes,
      ByteArray.size_extract, String.size_toByteArray]
    exact Nat.min_eq_left inside
  · rintro ⟨front, ⟨back, whole⟩, rfl⟩
    have split : sql = String.ofList front ++ String.ofList back := by
      rw [← String.ofList_append, whole, String.ofList_toList]
    -- The end of the prefix is a boundary, whatever is appended.
    rw [split]
    exact String.Pos.Raw.isValid_rawEndPos.append_right _

/-- The last place at or before the given one at which a character begins or ends, found by walking
back to it. -/
def lastBoundary (sql : String) : Nat → Nat
  | 0 => 0
  | place + 1 =>
    if String.Pos.Raw.isValid sql ⟨place + 1⟩ then place + 1 else lastBoundary sql place

/-- The walk back ends at a boundary of characters, and passes none over. -/
theorem lastBoundary_spec (sql : String) (place : Nat) :
    String.Pos.Raw.IsValid sql ⟨lastBoundary sql place⟩ ∧ lastBoundary sql place ≤ place ∧
      ∀ other ≤ place, String.Pos.Raw.IsValid sql ⟨other⟩ → other ≤ lastBoundary sql place := by
  induction place with
  | zero =>
    -- The start of a text is a boundary, and the walk goes no further.
    refine ⟨String.Pos.Raw.isValid_zero, Nat.le_refl _, ?_⟩
    intro other before _
    exact before
  | succ place ih =>
    rw [lastBoundary]
    split
    · rename_i boundary
      refine ⟨String.Pos.Raw.isValid_eq_true_iff.mp boundary, Nat.le_refl _, ?_⟩
      intro other before _
      exact before
    · rename_i inside
      obtain ⟨valid, before, last⟩ := ih
      refine ⟨valid, by omega, ?_⟩
      intro other within boundary
      -- The place that was passed is inside a character.
      have differ : other ≠ place + 1 := by
        rintro rfl
        exact inside (String.Pos.Raw.isValid_eq_true_iff.mpr boundary)
      exact last other (by omega) boundary

/-- What is kept of a text ends where the walk back from the limit does. -/
theorem byteCount_withinBytes (sql : String) (most : Nat) :
    byteCount (withinBytes most sql.toList) = lastBoundary sql most := by
  obtain ⟨valid, before, last⟩ := lastBoundary_spec sql most
  apply Nat.le_antisymm
  · -- The end of what is kept is a boundary within the limit.
    apply last _ (byteCount_withinBytes_le most sql.toList)
    exact isValid_iff_exists_front.mpr ⟨_, withinBytes_starts most sql.toList, rfl⟩
  · -- The boundary is the end of a prefix within the limit.
    obtain ⟨front, starts, ends⟩ := isValid_iff_exists_front.mp valid
    rw [← ends] at before ⊢
    exact byteCount_le_of_front (prefix_withinBytes starts before)

/-- The bytes of what is kept of a text are those up to where the walk back from the limit ends. -/
theorem textBytes_withinBytes (sql : String) (most : Nat) :
    textBytes (String.ofList (withinBytes most sql.toList)) =
      (textBytes sql).take (lastBoundary sql most) := by
  obtain ⟨behind, whole⟩ := withinBytes_starts most sql.toList
  have size : (textBytes (String.ofList (withinBytes most sql.toList))).length =
      lastBoundary sql most := byteCount_withinBytes sql most
  have split : textBytes sql =
      textBytes (String.ofList (withinBytes most sql.toList)) ++
        textBytes (String.ofList behind) := by
    simp only [textBytes_eq, String.toList_ofList, ← List.flatMap_append, whole]
  -- As many bytes are taken as the front part has.
  rw [split, ← size, List.take_left]

/-- A text is the longest prefix of another that is made of whole characters and takes no more bytes
than given. -/
structure IsLongestPrefix (most : Nat) (text kept : List Char) : Prop where
  starts : kept <+: text
  fits : byteCount kept ≤ most
  longest : ∀ front, front <+: text → byteCount front ≤ most → front <+: kept

/-- What is kept of a text is its longest prefix. -/
theorem isLongestPrefix_withinBytes (most : Nat) (text : List Char) :
    IsLongestPrefix most text (withinBytes most text) where
  starts := withinBytes_starts most text
  fits := byteCount_withinBytes_le most text
  longest _ starts fits := prefix_withinBytes starts fits

/-- A statement that is not cut off is shown as it is. -/
theorem shownSql_of_fits {options : ExecutionOptions} {sql : String}
    (fits : ∀ most ∈ options.shownLength, sql.utf8ByteSize ≤ most) :
    shownSql options sql = sql := by
  -- Nothing is cut off without a limit, or within one.
  cases limit : options.shownLength with
  | none => simp only [shownSql, limit]
  | some most =>
    have within := fits most limit
    simp only [shownSql, limit]
    rw [if_neg (by omega)]

/-- A statement that is too long is shown by what is kept of it, and three dots. -/
theorem shownSql_of_exceeds {options : ExecutionOptions} {sql : String} {most : Nat}
    (limit : options.shownLength = some most) (exceeds : most < sql.utf8ByteSize) :
    shownSql options sql = String.ofList (withinBytes most sql.toList) ++ "..." := by
  simp only [shownSql, limit, if_pos exceeds]

/-- A statement reads as it is exactly if, where it is too long, it is its own prefix and three
dots. -/
theorem shownSql_eq_self_iff {options : ExecutionOptions} {sql : String} :
    shownSql options sql = sql ↔ ∀ most ∈ options.shownLength, most < sql.utf8ByteSize →
      sql = String.ofList (withinBytes most sql.toList) ++ "..." := by
  -- What is too long is cut, so it could only coincide with what it is shown as.
  constructor
  · intro shown most limit exceeds
    rw [← shownSql_of_exceeds limit exceeds, shown]
  · intro coincides
    cases limit : options.shownLength with
    | none => exact shownSql_of_fits (by simp [limit])
    | some most =>
      by_cases exceeds : most < sql.utf8ByteSize
      · rw [shownSql_of_exceeds limit exceeds, ← coincides most limit exceeds]
      · exact shownSql_of_fits (by simpa [limit] using exceeds)

/-- A statement is shown with its longest prefix of whole characters within the limit. The prefix
ends where the walk back from the limit does, on a boundary of characters, is the whole of a text
that fits and but for three bytes as long as the limit otherwise, and grows with the limit. The
statement is shown as it is if there is no limit or it fits, and as that prefix and three dots
otherwise; that reads as the statement itself only if it is its own prefix and three dots. -/
theorem statement_is_shown_by_longest_prefix (sql : String) :
    (∀ most, IsLongestPrefix most sql.toList (withinBytes most sql.toList) ∧
      String.Pos.Raw.IsValid sql ⟨lastBoundary sql most⟩ ∧
      textBytes (String.ofList (withinBytes most sql.toList)) =
        (textBytes sql).take (lastBoundary sql most) ∧
      (sql.utf8ByteSize ≤ most → String.ofList (withinBytes most sql.toList) = sql) ∧
      (most < sql.utf8ByteSize → most ≤ byteCount (withinBytes most sql.toList) + 3)) ∧
    (∀ most more, most ≤ more → withinBytes most sql.toList <+: withinBytes more sql.toList) ∧
    ∀ options : ExecutionOptions,
      ((∀ most ∈ options.shownLength, sql.utf8ByteSize ≤ most) → shownSql options sql = sql) ∧
      (∀ most ∈ options.shownLength, most < sql.utf8ByteSize →
        shownSql options sql = String.ofList (withinBytes most sql.toList) ++ "...") ∧
      (shownSql options sql = sql ↔ ∀ most ∈ options.shownLength, most < sql.utf8ByteSize →
        sql = String.ofList (withinBytes most sql.toList) ++ "...") := by
  -- The limit is on the bytes of the text, which are those of its characters.
  have size : byteCount sql.toList = sql.utf8ByteSize := by
    rw [byteCount, String.ofList_toList]
  refine ⟨?_, ?_, ?_⟩
  · intro most
    refine ⟨isLongestPrefix_withinBytes most _, (lastBoundary_spec sql most).1,
      textBytes_withinBytes sql most, ?_, ?_⟩
    · intro fits
      rw [withinBytes_of_fits (size.trans_le fits), String.ofList_toList]
    · intro exceeds
      exact le_byteCount_withinBytes (exceeds.trans_eq size.symm)
  · intro most more grows
    exact withinBytes_mono grows sql.toList
  · intro options
    refine ⟨shownSql_of_fits, ?_, shownSql_eq_self_iff⟩
    intro most limit exceeds
    exact shownSql_of_exceeds limit exceeds

/-- A statement can be shown as it is though it is too long, here by the three dots that it ends
in. -/
theorem long_statement_is_shown_unchanged :
    let options : ExecutionOptions := { shownLength := some 15 }
    let sql := "SELECT a FROM t..."
    ¬ (shownSql options sql = sql ↔ ∀ most ∈ options.shownLength, sql.utf8ByteSize ≤ most) := by
  decide +kernel

/-- A cut inside of a character goes back to its start. -/
example : withinBytes 2 ['a', 'é'] = ['a'] := by decide

end RowQuery
