import Mathlib.Logic.ExistsUnique

/-!
Quotations in SQL. A text is read from the left as characters outside quotations and as quotations,
each between two marks of one kind. Inside, the mark is written twice, and the other mark is a
character like any other. A quotation whose closing mark is missing goes on to the end. Every text
is read in exactly one way.
-/

namespace RowQuery.Wire

/-- The marks around literals and around identifiers. -/
def IsMark (char : Char) : Prop :=
  char = '\'' ∨ char = '"'

/-- The content of a quotation as it is written: every mark of its own kind stands twice. -/
def escaped (mark : Char) (content : List Char) : List Char :=
  content.flatMap fun char => if char = mark then [mark, mark] else [char]

/-- A piece of a text as it is read. -/
inductive Stretch where
  /-- A character outside quotations. -/
  | plain (char : Char)
  /-- A quotation between two marks. -/
  | quotation (mark : Char) (content : List Char)
  /-- A quotation without its closing mark. -/
  | unclosed (mark : Char) (content : List Char)

namespace Stretch

/-- What is written for a stretch. -/
def chars : Stretch → List Char
  | .plain char => [char]
  | .quotation mark content => mark :: (escaped mark content ++ [mark])
  | .unclosed mark content => mark :: escaped mark content

/-- Whether a stretch is a quotation, closed or not. -/
def isQuotation : Stretch → Bool
  | .plain _ => false
  | _ => true

/-- Whether what comes behind a stretch is outside of it. -/
def isClosed : Stretch → Bool
  | .unclosed _ _ => false
  | _ => true

end Stretch

/-- How a text is read from the left. The closing mark of a quotation is not followed by another
mark of its kind, which would make both of them stand for one inside, and behind a quotation that is
not closed there is nothing. -/
inductive Reading : List Char → List Stretch → Prop where
  | nil : Reading [] []
  | plain {char : Char} {rest : List Char} {stretches : List Stretch} :
    ¬ IsMark char → Reading rest stretches → Reading (char :: rest) (.plain char :: stretches)
  | quotation {mark : Char} {content rest : List Char} {stretches : List Stretch} :
    IsMark mark → rest.head? ≠ some mark → Reading rest stretches →
    Reading (mark :: (escaped mark content ++ mark :: rest)) (.quotation mark content :: stretches)
  | unclosed {mark : Char} {content : List Char} :
    IsMark mark → Reading (mark :: escaped mark content) [.unclosed mark content]

/-- What is behind the content of a quotation: nothing, or the closing mark and what does not start
with another one. -/
inductive Closes (mark : Char) : List Char → Prop where
  | missing : Closes mark []
  | mark {rest : List Char} : rest.head? ≠ some mark → Closes mark (mark :: rest)

/-- The first character of the content is written once, or twice if it is a mark. -/
theorem escaped_cons (mark char : Char) (content : List Char) :
    escaped mark (char :: content) =
      (if char = mark then [mark, mark] else [char]) ++ escaped mark content :=
  List.flatMap_cons

/-- Any text is the content of a quotation and what is behind it. -/
theorem exists_content (mark : Char) :
    ∀ text, ∃ content behind, text = escaped mark content ++ behind ∧ Closes mark behind
  | [] => ⟨[], [], rfl, .missing⟩
  | [char] => by
    by_cases same : char = mark
    · exact ⟨[], [char], rfl, same ▸ .mark nofun⟩
    · exact ⟨[char], [], by simp [same, escaped], .missing⟩
  | char :: next :: rest => by
    by_cases same : char = mark
    · by_cases doubled : next = mark
      · -- Both marks stand for one, and the content goes on behind them.
        obtain ⟨content, behind, split, closes⟩ := exists_content mark rest
        exact ⟨mark :: content, behind, by simp [escaped_cons, same, doubled, split], closes⟩
      · exact ⟨[], char :: next :: rest, rfl, same ▸ .mark (by simpa [same] using doubled)⟩
    · obtain ⟨content, behind, split, closes⟩ := exists_content mark (next :: rest)
      exact ⟨char :: content, behind, by simp [escaped_cons, same, split], closes⟩

/-- What is behind the content of a quotation does not start like content. -/
theorem Closes.ne_escaped_cons {mark char : Char} {content behind rest : List Char}
    (closes : Closes mark behind) : behind ≠ escaped mark (char :: content) ++ rest := by
  rintro rfl
  rw [escaped_cons] at closes
  by_cases same : char = mark
  · -- The closing mark would be followed by another one.
    rw [if_pos same] at closes
    cases closes with
    | mark single => exact single rfl
  · rw [if_neg same] at closes
    cases closes with
    | mark _ => exact same rfl

/-- Content is told apart from what is behind it. -/
theorem escaped_append_inj {mark : Char} {left right behind behind' : List Char}
    (closes : Closes mark behind) (closes' : Closes mark behind')
    (same : escaped mark left ++ behind = escaped mark right ++ behind') :
    left = right ∧ behind = behind' := by
  induction left generalizing right with
  | nil =>
    cases right with
    | nil => exact ⟨rfl, same⟩
    | cons char right => exact absurd same closes.ne_escaped_cons
  | cons char left ih =>
    cases right with
    | nil => exact absurd same.symm closes'.ne_escaped_cons
    | cons char' right =>
      rw [escaped_cons, escaped_cons, List.append_assoc, List.append_assoc] at same
      -- A mark is written twice, and so it is on both sides if it is on one.
      by_cases marked : char = mark <;> by_cases marked' : char' = mark <;>
        simp only [marked, marked', if_true, if_false, List.cons_append, List.nil_append,
          List.cons.injEq, true_and] at same
      · obtain ⟨rfl, rest⟩ := ih same
        exact ⟨by rw [marked, marked'], rest⟩
      · exact absurd same.1.symm marked'
      · exact same.1.elim
      · obtain ⟨rfl, rest⟩ := ih same.2
        exact ⟨by rw [same.1], rest⟩

namespace Reading

variable {text : List Char} {stretches others : List Stretch}

/-- Every text can be read. -/
theorem exists_reading (text : List Char) : ∃ stretches, Reading text stretches := by
  -- The induction is on the length of what is left behind a character or a quotation.
  induction length : text.length using Nat.strongRecOn generalizing text with
  | ind length ih =>
    subst length
    cases text with
    | nil => exact ⟨[], .nil⟩
    | cons char rest =>
      by_cases marked : IsMark char
      · obtain ⟨content, behind, rfl, closes⟩ := exists_content char rest
        cases closes with
        | missing => exact ⟨_, by simpa using .unclosed marked⟩
        | @mark rest single =>
          obtain ⟨stretches, reading⟩ := ih _ (by simp; omega) rest rfl
          exact ⟨_, .quotation marked single reading⟩
      · obtain ⟨stretches, reading⟩ := ih _ (by simp) rest rfl
        exact ⟨_, .plain marked reading⟩

/-- A text that starts with a mark is read as a quotation, closed by what is behind its content. -/
theorem of_mark {mark : Char} {rest : List Char} (marked : IsMark mark)
    (reading : Reading (mark :: rest) stretches) :
    ∃ content behind, rest = escaped mark content ++ behind ∧
      ((behind = [] ∧ stretches = [.unclosed mark content]) ∨
        ∃ later others, behind = mark :: later ∧ later.head? ≠ some mark ∧
          Reading later others ∧ stretches = .quotation mark content :: others) := by
  -- A mark is never read as plain.
  cases reading with
  | plain noMark _ => exact absurd marked noMark
  | quotation _ single later => exact ⟨_, _, rfl, .inr ⟨_, _, rfl, single, later, rfl⟩⟩
  | unclosed _ => exact ⟨_, [], by simp, .inl ⟨rfl, rfl⟩⟩

/-- A text is read in one way only. -/
theorem unique (reading : Reading text stretches) (reading' : Reading text others) :
    stretches = others := by
  -- The induction is on the first reading; the mark in front decides the form of the other. A
  -- closing mark cannot be taken for the first half of a doubled one, as no mark stands behind it.
  induction reading generalizing others with
  | nil =>
    cases reading' with
    | nil => rfl
  | plain noMark _ ih =>
    cases reading' with
    | plain _ rest' => rw [ih rest']
    | quotation marked _ _ => exact absurd marked noMark
    | unclosed marked => exact absurd marked noMark
  | quotation marked single _ ih =>
    obtain ⟨_, _, same, ⟨rfl, -⟩ | ⟨_, _, rfl, single', later, rfl⟩⟩ := of_mark marked reading'
    · exact absurd (escaped_append_inj (.mark single) .missing same).2 nofun
    · obtain ⟨rfl, behind⟩ := escaped_append_inj (.mark single) (.mark single') same
      obtain ⟨-, rfl⟩ := List.cons.inj behind
      rw [ih later]
  | @unclosed mark content marked =>
    obtain ⟨_, _, same, closing⟩ := of_mark marked reading'
    rw [← List.append_nil (escaped mark content)] at same
    obtain ⟨rfl, rfl⟩ | ⟨_, _, rfl, single', -, rfl⟩ := closing
    · rw [(escaped_append_inj .missing .missing same).1]
    · exact absurd (escaped_append_inj .missing (.mark single') same).2 nofun

end Reading

end RowQuery.Wire
