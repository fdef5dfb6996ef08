import RowQuery.Proofs.Unicode.Visible
import RowQuery.Text.NameStyle

/-!
Names spelled in a style. The words of a name are its letters and numbers, none of them empty, and a
style leaves something of a name to be seen exactly if there are any.
-/

namespace RowQuery.Text

open Unicode

/-- Letters and numbers are split without loss, after those of the word read so far. -/
theorem flatten_splitCased (run : CaseRun) (word chars : List Char) :
    (splitCased run word chars).flatten = word ++ chars := by
  -- The induction follows the reading, in which a character joins the word so far or ends it.
  induction run, word, chars using splitCased.induct with
  | case1 run => simp [splitCased]
  | case2 run word some => simp [splitCased, some]
  | case3 run word last => simp [splitCased]
  | case4 run word current next rest begins ih => simp [splitCased, begins, ih]
  | case5 run word current next rest joins belongs ih =>
    rw [splitCased, if_neg joins, if_pos belongs, List.flatten_cons, ih, List.singleton_append]
  | case6 run word current next rest joins stays ih => simp [splitCased, joins, stays, ih]

/-- No word is empty, as long as a case comes from a character of the word. -/
theorem ne_nil_of_mem_splitCased {run : CaseRun} {word chars : List Char}
    (begun : run ≠ .none → word ≠ []) {piece : List Char}
    (member : piece ∈ splitCased run word chars) : piece ≠ [] := by
  induction run, word, chars using splitCased.induct with
  | case1 run => simp [splitCased] at member
  | case2 run word some =>
    obtain rfl : piece = word := by simpa [splitCased, some] using member
    exact some
  | case3 run word last =>
    obtain rfl : piece = word ++ [last] := by simpa [splitCased] using member
    simp
  | case4 run word current next rest begins ih =>
    rw [splitCased, if_pos begins, List.mem_cons] at member
    rcases member with rfl | later
    · simp
    · exact ih (fun cased => absurd rfl cased) later
  | case5 run word current next rest joins belongs ih =>
    rw [splitCased, if_neg joins, if_pos belongs, List.mem_cons] at member
    rcases member with rfl | later
    · -- The word ends in front of its last capital, and has another one.
      exact begun (by simp [belongs.1])
    · exact ih (by simp) later
  | case6 run word current next rest joins stays ih =>
    rw [splitCased, if_neg joins, if_neg stays] at member
    exact ih (by simp) member

/-- What is split at separators keeps everything else. -/
theorem flatten_splitOnP {α : Type} (separates : α → Bool) (items : List α) :
    (items.splitOnP separates).flatten = items.filter fun item => !separates item := by
  induction items with
  | nil => rfl
  | cons first rest ih =>
    rw [List.splitOnP_cons_eq_if_modifyHead, List.filter_cons, ← ih]
    cases separates first with
    | true => simp
    | false =>
      -- The item joins the part behind it, and there is one.
      obtain ⟨part, parts, split⟩ :=
        List.exists_cons_of_ne_nil (List.splitOnP_ne_nil separates rest)
      simp [split]

/-- The words of a name are its letters and numbers. -/
theorem flatten_words (name : String) :
    (words name).flatten = name.toList.filter isAlphanumeric := by
  rw [words, List.flatMap_def, List.flatten_flatten, List.map_map]
  -- Only the separators are lost: the parts between them are split without loss.
  have each : List.flatten ∘ splitCased .none [] = id := by
    funext chars
    exact flatten_splitCased .none [] chars
  rw [each, List.map_id, flatten_splitOnP]
  simp

/-- A word of a name has a character, and letters and numbers alone. -/
theorem of_mem_words {name : String} {word : List Char} (member : word ∈ words name) :
    word ≠ [] ∧ ∀ char ∈ word, isAlphanumeric char = true := by
  -- Pieces are cut where there is something on both sides, and the cutting keeps characters.
  refine ⟨?_, ?_⟩
  · obtain ⟨part, _, piece⟩ := List.mem_flatMap.mp member
    exact ne_nil_of_mem_splitCased (absurd rfl) piece
  · intro char inside
    have kept : char ∈ (words name).flatten := List.mem_flatten_of_mem member inside
    rw [flatten_words] at kept
    exact (List.mem_filter.mp kept).2

/-- A text shows something. -/
def Shows (text : List Char) : Prop :=
  ∃ char ∈ text, isBlank char = false

/-- A text shows what a part of it does. -/
theorem Shows.mono {part text : List Char} (shown : Shows part) (within : part ⊆ text) :
    Shows text := by
  obtain ⟨char, inside, visible⟩ := shown
  exact ⟨char, within inside, visible⟩

section Word

variable {word : List Char}

/-- A word shows something in small letters. -/
theorem shows_lowerWord (some : word ≠ []) (letters : ∀ char ∈ word, isAlphanumeric char = true) :
    Shows (lowerWord word) := by
  induction word using lowerWord.induct with
  | case1 => contradiction
  | case2 =>
    -- A sigma at the end of a word has a small letter of its own.
    exact ⟨'ς', List.mem_singleton_self _, by decide⟩
  | case3 char rest other ih =>
    rw [lowerWord.eq_3 _ _ other]
    exact Shows.mono (exists_mem_toLowercase (letters char List.mem_cons_self))
      (List.subset_append_left _ _)

/-- A word shows something in capitals. -/
theorem shows_upperWord (some : word ≠ []) (letters : ∀ char ∈ word, isAlphanumeric char = true) :
    Shows (upperWord word) := by
  -- The first letter already shows something in capitals.
  obtain ⟨char, rest, rfl⟩ := List.exists_cons_of_ne_nil some
  rw [upperWord, List.flatMap_cons]
  exact Shows.mono (exists_mem_toUppercase (letters char List.mem_cons_self))
    (List.subset_append_left _ _)

/-- A word shows something with a capital in front. -/
theorem shows_capitalWord (some : word ≠ [])
    (letters : ∀ char ∈ word, isAlphanumeric char = true) : Shows (capitalWord word) := by
  obtain ⟨char, rest, rfl⟩ := List.exists_cons_of_ne_nil some
  exact Shows.mono (exists_mem_toUppercase (letters char List.mem_cons_self))
    (List.subset_append_left _ _)

end Word

/-- What a list of texts is joined to begins with the first of them. -/
theorem shows_intercalate {separator text : List Char} {rest : List (List Char)}
    (first : Shows text) : Shows (separator.intercalate (text :: rest)) := by
  refine first.mono ?_
  cases rest with
  | nil => simp
  | cons other rest => simp

/-- A name in a style is empty if it has no letter and no number, and shows something otherwise. -/
theorem NameStyle.apply_cases (style : NameStyle) (name : String) :
    (∀ char ∈ name.toList, isAlphanumeric char = false) ∧ style.apply name = "" ∨
      (∃ char ∈ name.toList, isAlphanumeric char = true) ∧ Shows (style.apply name).toList := by
  cases spelled : words name with
  | nil =>
    left
    have kept := flatten_words name
    rw [spelled] at kept
    refine ⟨?_, ?_⟩
    · intro char inside
      have none := List.filter_eq_nil_iff.mp kept.symm char inside
      simpa using none
    · cases style <;> simp [apply, spelled]
  | cons first rest =>
    right
    have among : first ∈ words name := by simp [spelled]
    obtain ⟨some, letters⟩ := of_mem_words among
    obtain ⟨char, behind, rfl⟩ := List.exists_cons_of_ne_nil some
    have lower := shows_lowerWord some letters
    have upper := shows_upperWord some letters
    have capital := shows_capitalWord some letters
    refine ⟨⟨char, ?_, letters char List.mem_cons_self⟩, ?_⟩
    · have kept : char ∈ (words name).flatten := by simp [spelled]
      rw [flatten_words] at kept
      exact (List.mem_filter.mp kept).1
    · -- Every style puts the first word in front, in small letters or in capitals.
      cases style with
      | snake =>
        simp only [apply, String.toList_ofList, spelled, List.map_cons]
        exact shows_intercalate lower
      | screamingSnake =>
        simp only [apply, String.toList_ofList, spelled, List.map_cons]
        exact shows_intercalate upper
      | upperCamel =>
        simp only [apply, String.toList_ofList, spelled, List.flatMap_cons]
        exact capital.mono (List.subset_append_left _ _)
      | lowerCamel =>
        simp only [apply, String.toList_ofList, spelled]
        exact lower.mono (List.subset_append_left _ _)

end RowQuery.Text
