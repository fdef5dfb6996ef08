import Mathlib.Data.List.Infix
import RowQuery.Proofs.Condition.Lexemes

/-!
Symbols are told apart by how they are spelled. Apart from names their texts are a prefix code, and
a name ends where its characters end, so that a text has one reading at most from left to right.
Unlike lexemes this needs no keywords: a column may be called like a connective.
-/

namespace RowQuery

/-- A text that can be a name with or without a table in front. -/
def IsWord (text : List Char) : Prop :=
  text ≠ [] ∧ ∀ char ∈ text, isWordChar char = true

/-- A text in front of which every word has ended. -/
def EndsWord (text : List Char) : Prop :=
  ∀ first ∈ text.head?, isWordChar first = false

/-- Texts of some characters are told apart in front of texts that do not start with one of them. -/
theorem append_inj_of_boundary {inside : Char → Bool} {left right rest others : List Char}
    (isLeft : ∀ char ∈ left, inside char = true) (isRight : ∀ char ∈ right, inside char = true)
    (ended : ∀ first ∈ rest.head?, inside first = false)
    (endedOther : ∀ first ∈ others.head?, inside first = false)
    (same : left ++ rest = right ++ others) : left = right ∧ rest = others := by
  -- Both texts are what is taken from the front of the whole.
  have taken : ∀ text behind : List Char, (∀ char ∈ text, inside char = true) →
      (∀ first ∈ behind.head?, inside first = false) →
      (text ++ behind).takeWhile inside = text := by
    intro text behind chars boundary
    have nothing : behind.takeWhile inside = [] := by
      cases behind with
      | nil => rfl
      | cons first _ => exact List.takeWhile_cons_of_neg (by simp [boundary first rfl])
    rw [List.takeWhile_append_of_pos chars, nothing, List.append_nil]
  have front : left = right := by
    rw [← taken left rest isLeft ended, same, taken right others isRight endedOther]
  subst front
  exact ⟨rfl, List.append_cancel_left same⟩

/-- Words are told apart, whatever follows them. -/
theorem IsWord.append_inj {left right rest others : List Char} (isLeft : IsWord left)
    (isRight : IsWord right) (ended : EndsWord rest) (endedOther : EndsWord others)
    (same : left ++ rest = right ++ others) : left = right ∧ rest = others :=
  append_inj_of_boundary isLeft.2 isRight.2 ended endedOther same

namespace Symbol

open Condition (questionMark)

/-- The texts of all symbols but names. -/
def marks : List (List Char) :=
  ["( ", " )", " AND ", " OR ", " = ", " != ", " < ", " <= ", " > ", " >= ", " LIKE ", "?"].map
    String.toList

/-- No mark is the beginning of another one. -/
theorem eq_of_isPrefix_mark :
    ∀ mark ∈ marks, ∀ other ∈ marks, mark <+: other → mark = other := by
  decide

/-- No mark starts like a word. -/
theorem endsWord_of_mem_marks :
    ∀ mark ∈ marks, ∃ first rest, mark = first :: rest ∧ isWordChar first = false := by
  -- The marks are finitely many, and each is looked at.
  have starts : marks.all fun mark => mark.head?.any fun first => !isWordChar first := by decide
  intro mark member
  have marked := List.all_eq_true.mp starts mark member
  cases mark with
  | nil => simp at marked
  | cons first rest => exact ⟨first, rest, rfl, by simpa using marked⟩

/-- The text of a symbol that is no name is one of the marks. -/
theorem text_mem_marks {symbol : Symbol} (unnamed : ∀ name, symbol ≠ .name name) (position : Nat) :
    (symbol.text (questionMark position)).toList ∈ marks := by
  -- Of words and operators there is one text for each, and a blank on both sides.
  cases symbol with
  | opening => exact (by decide : "( ".toList ∈ marks)
  | closing => exact (by decide : " )".toList ∈ marks)
  | word connective =>
    show (" " ++ connective.sql ++ " ").toList ∈ marks
    cases connective <;> decide
  | operator comparison =>
    show (" " ++ comparison.sql ++ " ").toList ∈ marks
    cases comparison <;> decide
  | name name => exact absurd rfl (unnamed name)
  | place bound => exact (by decide : "?".toList ∈ marks)

/-- A text in front of which symbols have ended: it goes on with none of them. -/
structure EndsSymbols (text : List Char) : Prop where
  word : EndsWord text
  mark : ∀ mark ∈ marks, ¬ mark <+: text

/-- Symbols are the same but for what is bound at them. -/
def Alike (left right : Symbol) : Prop :=
  left = right ∨ (left.bound?.isSome = true ∧ right.bound?.isSome = true)

/-- Symbols that are alike and have the same values behind one another are the same symbols, and the
values behind them are the same. -/
theorem Alike.eq_of_values {left right : Symbol} {values others : List Value}
    (alike : left.Alike right)
    (same : left.bound?.toList ++ values = right.bound?.toList ++ others) :
    left = right ∧ values = others := by
  rcases alike with rfl | ⟨leftBound, rightBound⟩
  · exact ⟨rfl, List.append_cancel_left same⟩
  · -- Both are places, at which the first values are bound.
    cases left with
    | place bound =>
      cases right with
      | place other =>
        simp only [bound?, Option.toList_some, List.cons_append, List.nil_append,
          List.cons.injEq] at same
        exact ⟨by rw [same.1], same.2⟩
      | _ => simp [bound?] at rightBound
    | _ => simp [bound?] at leftBound

/-- Symbols other than names with the same text are alike. -/
theorem alike_of_text {left right : Symbol} (unnamed : ∀ name, left ≠ .name name)
    (unnamedOther : ∀ name, right ≠ .name name) (position : Nat)
    (same : left.text (questionMark position) = right.text (questionMark position)) :
    left.Alike right := by
  -- A text has one lexeme, which stands for one symbol, or it is a question mark.
  have lexed := lexemes_text unnamed position
  rw [same, lexemes_text unnamedOther position, List.singleton_inj] at lexed
  have ofPlace : ∀ symbol other : Symbol, other.lexeme = symbol.lexeme →
      symbol.bound?.isSome = true → (∀ name, other ≠ .name name) →
      other.bound?.isSome = true := by
    intro symbol other lexemes bound unnamed
    by_contra unbound
    have read := ofLexeme?_lexeme (Option.not_isSome_iff_eq_none.mp unbound)
      fun name named => absurd named (unnamed name)
    have mark : symbol.lexeme = ['?'] := by cases symbol <;> simp_all [bound?, lexeme]
    rw [lexemes, mark, ofLexeme?_questionMark] at read
    contradiction
  by_cases bound : left.bound?.isSome = true
  · exact .inr ⟨bound, ofPlace left right lexed bound unnamedOther⟩
  · -- Neither of them is a place, so the lexeme is read as both.
    have unbound : right.bound?.isSome ≠ true :=
      fun other => bound (ofPlace right left lexed.symm other unnamed)
    have readLeft := ofLexeme?_lexeme (Option.not_isSome_iff_eq_none.mp bound)
      fun name named => absurd named (unnamed name)
    have readRight := ofLexeme?_lexeme (Option.not_isSome_iff_eq_none.mp unbound)
      fun name named => absurd named (unnamedOther name)
    rw [lexed, readLeft, Option.some.injEq] at readRight
    exact .inl readRight

/-- A symbol is well set in front of a text, if it is no name or a word that ends there. -/
def StandsBefore (symbol : Symbol) (rest : List Char) : Prop :=
  ∀ name, symbol = .name name → IsWord name.toList ∧ EndsWord rest

/-- A mark in front of a text is no word there. -/
theorem not_isWord_of_mark {mark word rest others : List Char} (member : mark ∈ marks)
    (isWord : IsWord word) : mark ++ rest ≠ word ++ others := by
  -- They differ in the first character.
  obtain ⟨first, behind, rfl, unfit⟩ := endsWord_of_mem_marks mark member
  obtain ⟨some, chars⟩ := isWord
  cases word with
  | nil => contradiction
  | cons char word =>
    intro same
    have fit := chars char List.mem_cons_self
    rw [← (List.cons.inj same).1, unfit] at fit
    contradiction

/-- The first symbol of a text is told from any other. -/
theorem alike_of_text_append {left right : Symbol} {rest others : List Char} (position : Nat)
    (before : left.StandsBefore rest) (beforeOther : right.StandsBefore others)
    (same : (left.text (questionMark position)).toList ++ rest =
      (right.text (questionMark position)).toList ++ others) :
    left.Alike right ∧ rest = others := by
  by_cases leftName : ∃ name, left = .name name
  · obtain ⟨name, rfl⟩ := leftName
    obtain ⟨isWord, ended⟩ := before name rfl
    by_cases rightName : ∃ name, right = .name name
    · obtain ⟨other, rfl⟩ := rightName
      obtain ⟨isOther, endedOther⟩ := beforeOther other rfl
      obtain ⟨sameName, sameRest⟩ := isWord.append_inj isOther ended endedOther same
      exact ⟨.inl (by rw [String.toList_inj.mp sameName]), sameRest⟩
    · have unnamed : ∀ name, right ≠ .name name := fun name is => rightName ⟨name, is⟩
      exact absurd same.symm (not_isWord_of_mark (text_mem_marks unnamed position) isWord)
  · have unnamed : ∀ name, left ≠ .name name := fun name is => leftName ⟨name, is⟩
    have mark := text_mem_marks unnamed position
    by_cases rightName : ∃ name, right = .name name
    · obtain ⟨other, rfl⟩ := rightName
      exact absurd same (not_isWord_of_mark mark (beforeOther other rfl).1)
    · have unnamedOther : ∀ name, right ≠ .name name := fun name is => rightName ⟨name, is⟩
      have markOther := text_mem_marks unnamedOther position
      -- One of the marks begins the other, so they are the same.
      have texts : (left.text (questionMark position)).toList =
          (right.text (questionMark position)).toList := by
        have front : (right.text (questionMark position)).toList <+:
            (left.text (questionMark position)).toList ++ rest :=
          same ▸ List.prefix_append _ _
        rcases List.prefix_or_prefix_of_prefix (List.prefix_append _ _) front with short | long
        · exact eq_of_isPrefix_mark _ mark _ markOther short
        · exact (eq_of_isPrefix_mark _ markOther _ mark long).symm
      refine ⟨alike_of_text unnamed unnamedOther position (String.toList_inj.mp texts), ?_⟩
      rw [texts] at same
      exact List.append_cancel_left same

/-- Symbols do not go on where they have ended. -/
theorem not_endsSymbols_of_text {symbol : Symbol} {rest : List Char} (position : Nat)
    (word : ∀ name, symbol = .name name → IsWord name.toList) :
    ¬ EndsSymbols ((symbol.text (questionMark position)).toList ++ rest) := by
  intro ended
  by_cases isName : ∃ name, symbol = .name name
  · obtain ⟨name, rfl⟩ := isName
    -- The first character of the name goes on with a word.
    obtain ⟨some, chars⟩ := word name rfl
    obtain ⟨first, behind, text⟩ := List.exists_cons_of_ne_nil some
    have isWordChar := chars first (by simp [text])
    have isNone := ended.word first (by simp [Symbol.text, text])
    rw [isWordChar] at isNone
    contradiction
  · have unnamed : ∀ name, symbol ≠ .name name := fun name is => isName ⟨name, is⟩
    exact ended.mark _ (text_mem_marks unnamed position) (List.prefix_append _ _)

/-- Symbols in front of a text in which they have ended are well set there. -/
theorem standsBefore_spell {symbol : Symbol} {symbols : List Symbol} {rest : List Char}
    (chain : (symbol :: symbols).IsChain MayPrecede)
    (word : ∀ name, symbol = .name name → IsWord name.toList) (ended : EndsSymbols rest)
    (position : Nat) : symbol.StandsBefore (spell questionMark position symbols ++ rest) := by
  intro name named
  refine ⟨word name named, ?_⟩
  cases symbols with
  | nil => exact ended.word
  | cons other others =>
    -- What follows a name starts with a blank.
    have apart : other.startsApart = true :=
      (List.isChain_cons_cons.mp chain).1 (by rw [named]; rfl)
    intro first found
    have blank := head?_spell apart questionMark position others
    rw [List.head?_append, blank, Option.some_or, Option.mem_some] at found
    rw [← found]
    decide

/-- Symbols with question marks at their places are told apart in a text, if their names are words
and they bind the same values. -/
theorem eq_of_spell_append {symbols others : List Symbol} {rest restOther : List Char}
    {position : Nat} (chain : symbols.IsChain MayPrecede) (chainOther : others.IsChain MayPrecede)
    (words : ∀ name, .name name ∈ symbols → IsWord name.toList)
    (wordsOther : ∀ name, .name name ∈ others → IsWord name.toList)
    (ended : EndsSymbols rest) (endedOther : EndsSymbols restOther)
    (bound : values symbols = values others)
    (same : spell questionMark position symbols ++ rest =
      spell questionMark position others ++ restOther) :
    symbols = others ∧ rest = restOther := by
  -- The text is read from the left, one symbol of both rows at a time.
  induction symbols generalizing others position with
  | nil =>
    cases others with
    | nil => exact ⟨rfl, same⟩
    | cons other others =>
      rw [spell, spell, List.nil_append, List.append_assoc] at same
      exact absurd (same ▸ ended) (not_endsSymbols_of_text position
        fun name named => wordsOther name (named ▸ List.mem_cons_self))
  | cons symbol symbols ih =>
    have word : ∀ name, symbol = .name name → IsWord name.toList :=
      fun name named => words name (named ▸ List.mem_cons_self)
    cases others with
    | nil =>
      rw [spell, spell, List.nil_append, List.append_assoc] at same
      exact absurd (same ▸ endedOther) (not_endsSymbols_of_text position word)
    | cons other others =>
      have wordOther : ∀ name, other = .name name → IsWord name.toList :=
        fun name named => wordsOther name (named ▸ List.mem_cons_self)
      rw [spell, spell, List.append_assoc, List.append_assoc] at same
      obtain ⟨alike, sameRest⟩ := alike_of_text_append position
        (standsBefore_spell chain word ended _)
        (standsBefore_spell chainOther wordOther endedOther _) same
      -- The values at the first symbols are the first of all values.
      rw [values, values, List.flatMap_cons, List.flatMap_cons] at bound
      obtain ⟨rfl, boundRest⟩ := alike.eq_of_values bound
      obtain ⟨rfl, sameEnd⟩ := ih chain.tail chainOther.tail
        (fun name member => words name (List.mem_cons_of_mem _ member))
        (fun name member => wordsOther name (List.mem_cons_of_mem _ member)) boundRest sameRest
      exact ⟨rfl, sameEnd⟩

end Symbol

end RowQuery
