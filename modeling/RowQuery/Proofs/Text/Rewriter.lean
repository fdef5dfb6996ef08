import RowQuery.Proofs.Condition.Shown

/-!
Rewriting a text character by character, with a state that says what is written for the next one.
Rewriters that count question marks replace the places of a condition one by one and keep the rest.
-/

namespace RowQuery

/-- A device that reads a text and writes another one. -/
structure Rewriter (σ : Type) where
  /-- The state after a character. -/
  after : σ → Char → σ
  /-- What is written for a character. -/
  written : σ → Char → List Char

namespace Rewriter

variable {σ : Type} (rewriter : Rewriter σ)

/-- The state after a text. -/
def final (state : σ) (text : List Char) : σ :=
  text.foldl rewriter.after state

/-- What is written for a text. -/
def output (state : σ) : List Char → List Char
  | [] => []
  | char :: rest => rewriter.written state char ++ output (rewriter.after state char) rest

/-- From one state a text is read and another one written, which leads to another state. -/
structure Writes (before : σ) (text result : List Char) (after : σ) : Prop where
  final_eq : rewriter.final before text = after
  output_eq : rewriter.output before text = result

/-- A text that is written as it stands, in any of the states before a place. -/
def Keeps (state : Nat → σ) (text : List Char) : Prop :=
  ∀ position, rewriter.Writes (state position) text text (state position)

variable {rewriter}

namespace Writes

/-- Nothing is written for nothing. -/
theorem nil (state : σ) : rewriter.Writes state [] [] state :=
  ⟨rfl, rfl⟩

/-- One character is read in one step. -/
theorem single (state : σ) (char : Char) :
    rewriter.Writes state [char] (rewriter.written state char) (rewriter.after state char) :=
  ⟨rfl, by simp [output]⟩

/-- A text is read from where the text in front of it leads to. -/
theorem append {before between after : σ} {left right leftResult rightResult : List Char}
    (first : rewriter.Writes before left leftResult between)
    (second : rewriter.Writes between right rightResult after) :
    rewriter.Writes before (left ++ right) (leftResult ++ rightResult) after := by
  constructor
  · -- The first text leads to where the second one starts.
    have middle : left.foldl rewriter.after before = between := first.final_eq
    rw [final, List.foldl_append, middle]
    exact second.final_eq
  · -- The induction is on the text in front, which decides where the second one starts.
    have general : ∀ state, rewriter.output state (left ++ right) =
        rewriter.output state left ++ rewriter.output (rewriter.final state left) right := by
      clear first
      induction left with
      | nil => intro state; rfl
      | cons char rest ih =>
        intro state
        rw [List.cons_append, output, output, ih, List.append_assoc]
        rfl
    rw [general, first.final_eq, first.output_eq, second.output_eq]

end Writes

namespace Keeps

variable {state : Nat → σ}

/-- Nothing is kept. -/
theorem nil : rewriter.Keeps state [] :=
  fun position => .nil (state position)

/-- A text after another one is kept if both are. -/
theorem append {left right : List Char} (first : rewriter.Keeps state left)
    (second : rewriter.Keeps state right) : rewriter.Keeps state (left ++ right) :=
  fun position => (first position).append (second position)

/-- A separated list is kept if the separator and all texts are. -/
theorem intercalate {separator : String} {texts : List String}
    (between : rewriter.Keeps state separator.toList)
    (each : ∀ text ∈ texts, rewriter.Keeps state text.toList) :
    rewriter.Keeps state (separator.intercalate texts).toList := by
  -- All pieces are kept in the same states, so they can be put together in any number.
  induction texts with
  | nil => exact .nil
  | cons text rest ih =>
    have first := each text List.mem_cons_self
    have later := ih fun other member => each other (List.mem_cons_of_mem _ member)
    cases rest with
    | nil => simpa using first
    | cons other rest =>
      rw [String.intercalate_cons_cons, String.toList_append, String.toList_append]
      exact (first.append between).append later

end Keeps

end Rewriter

/-- Whether a character is neither a question mark nor a quote. -/
def isPlainChar (char : Char) : Bool :=
  char ≠ '?' && char ≠ '\'' && char ≠ '"'

/-- Apart from names and places, symbols consist of plain characters. -/
theorem Symbol.all_isPlainChar_text {symbol : Symbol} (unnamed : ∀ name, symbol ≠ .name name)
    (unbound : symbol.bound? = none) (shown : Value → String) :
    (symbol.text shown).toList.all isPlainChar = true := by
  -- The texts are fixed, up to the word of a connective or the operator of a comparison.
  cases symbol with
  | opening => exact (by decide : "( ".toList.all isPlainChar = true)
  | closing => exact (by decide : " )".toList.all isPlainChar = true)
  | word connective =>
    show (" " ++ connective.sql ++ " ").toList.all isPlainChar = true
    cases connective <;> decide
  | operator comparison =>
    show (" " ++ comparison.sql ++ " ").toList.all isPlainChar = true
    cases comparison <;> decide
  | name name => exact absurd rfl (unnamed name)
  | place bound => simp [Symbol.bound?] at unbound

/-- A rewriter that replaces question marks by texts, each the next one, and keeps plain
characters. -/
structure Rewriter.ReplacesPlaces {σ : Type} (rewriter : Rewriter σ) (state : Nat → σ)
    (text : Nat → String) : Prop where
  atPlace : ∀ position,
    rewriter.Writes (state position) ['?'] (text position).toList (state (position + 1))
  atPlain : ∀ char, isPlainChar char = true → rewriter.Keeps state [char]

namespace Rewriter.ReplacesPlaces

variable {σ : Type} {rewriter : Rewriter σ} {state : Nat → σ} {text : Nat → String}

/-- A text of plain characters is kept. -/
theorem keeps (replaces : rewriter.ReplacesPlaces state text) {chars : List Char}
    (plain : chars.all isPlainChar = true) : rewriter.Keeps state chars := by
  -- Character by character, the state stays the same.
  induction chars with
  | nil => exact .nil
  | cons char rest ih =>
    simp only [List.all_cons, Bool.and_eq_true] at plain
    exact (replaces.atPlain char plain.1).append (ih plain.2)

/-- The text of a symbol that is no place is kept, if it is no name or a name that is kept. -/
theorem keeps_text (replaces : rewriter.ReplacesPlaces state text) {symbol : Symbol}
    (unbound : symbol.bound? = none)
    (named : ∀ name, symbol = .name name → rewriter.Keeps state name.toList)
    (shown : Value → String) : rewriter.Keeps state (symbol.text shown).toList := by
  -- What a name consists of is not known, but the texts of other symbols are plain.
  by_cases isName : ∃ name, symbol = .name name
  · obtain ⟨name, rfl⟩ := isName
    exact named name rfl
  · have unnamed : ∀ name, symbol ≠ .name name := fun name same => isName ⟨name, same⟩
    exact replaces.keeps (Symbol.all_isPlainChar_text unnamed unbound shown)

/-- The rewriter puts its texts at the places of symbols, if it keeps the names among them. -/
theorem writes_spell (replaces : rewriter.ReplacesPlaces state text) {symbols : List Symbol}
    (names : ∀ name, .name name ∈ symbols → rewriter.Keeps state name.toList) (position : Nat) :
    rewriter.Writes (state position) (Symbol.spell Condition.questionMark position symbols)
      (Symbol.spell (fun place _ => text place) position symbols)
      (state (position + (Symbol.values symbols).length)) := by
  induction symbols generalizing position with
  | nil => exact .nil _
  | cons symbol rest ih =>
    have later := ih (fun name member => names name (List.mem_cons_of_mem _ member))
      (position + symbol.bound?.toList.length)
    -- Only at a place is anything replaced, and only there the position moves on.
    have first : rewriter.Writes (state position)
        (symbol.text (Condition.questionMark position)).toList
        (symbol.text fun _ => text position).toList
        (state (position + symbol.bound?.toList.length)) := by
      have named : ∀ name, symbol = .name name → rewriter.Keeps state name.toList :=
        fun name same => names name (same ▸ List.mem_cons_self)
      cases symbol with
      | place bound =>
        simpa [Symbol.text, Symbol.bound?, Condition.questionMark] using replaces.atPlace position
      | _ => exact replaces.keeps_text rfl named _ position
    have both := first.append later
    -- The values of the rest are counted on top of that of the first symbol.
    rw [Nat.add_assoc, ← List.length_append] at both
    exact both

end Rewriter.ReplacesPlaces

end RowQuery
