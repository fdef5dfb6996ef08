import Mathlib.Data.List.SplitBy
import RowQuery.Proofs.Condition.Shown
import RowQuery.Unicode.Alphanumeric

/-!
Reading the text of a condition. The text is cut into lexemes, each of them stands for a symbol, and
question marks stand for the bound values in order. The text that a condition is rendered as is read
as the symbols it was spelled out from.
-/

namespace RowQuery

open Unicode

/-- Whether a character can stand in an identifier: a letter, a digit or an underscore. -/
def isIdentifierChar (char : Char) : Bool :=
  isAlphanumeric char || char = '_'

/-- Whether a character belongs to a word: to an identifier, or between two of them. -/
def isWordChar (char : Char) : Bool :=
  isIdentifierChar char || char = '.'

/-- Whether a character belongs to an operator. -/
def isOperatorChar (char : Char) : Bool :=
  ['=', '!', '<', '>'].contains char

/-- Whether two characters side by side belong to the same lexeme. -/
def joins (left right : Char) : Bool :=
  (isWordChar left && isWordChar right) || (isOperatorChar left && isOperatorChar right)

/-- The lexemes of a text: words, operators and single characters, without the blanks between. -/
def lexemes (text : List Char) : List (List Char) :=
  (text.splitBy joins).filter fun lexeme => !lexeme.all Char.isWhitespace

/-- The words that are no identifiers. -/
def keywords : List (List Char) :=
  [['A', 'N', 'D'], ['O', 'R'], ['L', 'I', 'K', 'E']]

/-- Whether a word is a plain identifier: letters, digits and underscores, and no keyword. -/
def isIdentifier (word : List Char) : Bool :=
  word ≠ [] && word.all isIdentifierChar && !keywords.contains word

/-- Whether a word names a column: by an identifier, or by its table's, a point and its own. -/
def isColumnName (word : List Char) : Bool :=
  isIdentifier word ||
    match word.dropWhile isIdentifierChar with
    | '.' :: name => isIdentifier (word.takeWhile isIdentifierChar) && isIdentifier name
    | _ => false

/-- A column with plain identifiers for its table and its name. -/
def Column.IsPlain (column : Column) : Prop :=
  isIdentifier column.table.toList = true ∧ isIdentifier column.name.toList = true

/-- The connective that a word stands for. -/
def Connective.ofWord? (word : List Char) : Option Connective :=
  [.all, .any].find? fun connective => connective.sql.toList = word

/-- The comparison that an operator stands for. -/
def Comparison.ofOperator? (operator : List Char) : Option Comparison :=
  [.equal, .notEqual, .less, .lessOrEqual, .greater, .greaterOrEqual, .like].find? fun comparison =>
    comparison.sql.toList = operator

namespace Symbol

/-- The symbol that a lexeme stands for, unless it is a place. -/
def ofLexeme? (lexeme : List Char) : Option Symbol :=
  if lexeme = ['('] then some .opening
  else if lexeme = [')'] then some .closing
  else if isColumnName lexeme then some (.name (String.ofList lexeme))
  else ((Connective.ofWord? lexeme).map .word).or ((Comparison.ofOperator? lexeme).map .operator)

/-- The symbols that lexemes stand for. Every question mark takes the next of the bound values, and
none of these is left over. -/
def ofLexemes? : List (List Char) → List Value → Option (List Symbol)
  | [], [] => some []
  | [], _ :: _ => none
  | ['?'] :: rest, bound :: binds => (ofLexemes? rest binds).map (.place bound :: ·)
  | lexeme :: rest, binds =>
    (ofLexeme? lexeme).bind fun symbol => (ofLexemes? rest binds).map (symbol :: ·)

/-- The symbols that a text with bound values is read as. -/
def read? (text : String) (binds : List Value) : Option (List Symbol) :=
  ofLexemes? (lexemes text.toList) binds

/-- The lexeme that stands for a symbol. -/
def lexeme : Symbol → List Char
  | .opening => ['(']
  | .closing => [')']
  | .word connective => connective.sql.toList
  | .operator comparison => comparison.sql.toList
  | .name text => text.toList
  | .place _ => ['?']

end Symbol

/-- Texts are cut apart between two characters that do not belong together. -/
theorem lexemes_append {left right : List Char}
    (apart : ∀ last ∈ left.getLast?, ∀ first ∈ right.head?, joins last first = false) :
    lexemes (left ++ right) = lexemes left ++ lexemes right := by
  -- Dropping blanks concerns each lexeme alone, so only the cut matters.
  rw [lexemes, List.splitBy_append apart, List.filter_append]
  rfl

/-- A character that belongs to a word is no blank. -/
theorem isWhitespace_of_isWordChar {char : Char} (word : isWordChar char = true) :
    char.isWhitespace = false := by
  -- There are four blanks, and none of them belongs to a word.
  by_contra blank
  simp only [Char.isWhitespace, Bool.or_eq_true, decide_eq_true_eq, Bool.not_eq_false] at blank
  rcases blank with ((rfl | rfl) | rfl) | rfl <;> exact absurd word (by decide)

/-- A text of word characters is one lexeme. -/
theorem lexemes_word {word : List Char} (some : word ≠ [])
    (chars : word.all isWordChar = true) : lexemes word = [word] := by
  rw [List.all_eq_true] at chars
  -- All of its characters belong together, so it is not cut.
  have chain : word.IsChain fun left right => joins left right = true := by
    refine (List.pairwise_of_forall_mem_list fun left first right second => ?_).isChain
    simp [joins, chars left first, chars right second]
  have whole : word.splitBy joins = [word] := List.splitBy_of_isChain some chain
  -- Its first character keeps it from being dropped as a blank.
  obtain ⟨first, rest, rfl⟩ := List.exists_cons_of_ne_nil some
  have visible : first.isWhitespace = false :=
    isWhitespace_of_isWordChar (chars first List.mem_cons_self)
  rw [lexemes, whole]
  simp [visible]

/-- An identifier consists of identifier characters, and of at least one. -/
theorem isIdentifier_iff {word : List Char} :
    isIdentifier word = true ↔
      (word ≠ [] ∧ ∀ char ∈ word, isIdentifierChar char = true) ∧ word ∉ keywords := by
  simp [isIdentifier, List.all_eq_true]

/-- A qualified name names a column. -/
theorem isColumnName_qualified {table name : List Char} (first : isIdentifier table = true)
    (second : isIdentifier name = true) : isColumnName (table ++ '.' :: name) = true := by
  obtain ⟨⟨_, chars⟩, _⟩ := isIdentifier_iff.mp first
  have point : isIdentifierChar '.' = false := by decide
  -- The identifier of the table ends at the point.
  have before : (table ++ '.' :: name).takeWhile isIdentifierChar = table := by
    rw [List.takeWhile_append_of_pos chars, List.takeWhile_cons_of_neg (by simp [point]),
      List.append_nil]
  have behind : (table ++ '.' :: name).dropWhile isIdentifierChar = '.' :: name := by
    rw [List.dropWhile_append_of_pos chars, List.dropWhile_cons_of_neg (by simp [point])]
  simp [isColumnName, before, behind, first, second]

/-- The name of a column consists of word characters, and of at least one. -/
theorem isWordChar_of_isColumnName {word : List Char} (named : isColumnName word = true) :
    word ≠ [] ∧ word.all isWordChar = true := by
  have ofIdentifier : ∀ part : List Char, isIdentifier part = true →
      part ≠ [] ∧ part.all isWordChar = true := by
    intro part identifier
    obtain ⟨⟨some, chars⟩, _⟩ := isIdentifier_iff.mp identifier
    exact ⟨some, List.all_eq_true.mpr fun char member => by simp [isWordChar, chars char member]⟩
  rw [isColumnName, Bool.or_eq_true] at named
  rcases named with alone | qualified
  · exact ofIdentifier word alone
  · -- Behind the identifier of the table there are a point and another identifier.
    split at qualified
    · next name behind =>
      rw [Bool.and_eq_true] at qualified
      obtain ⟨some, chars⟩ := ofIdentifier _ qualified.1
      obtain ⟨_, nameChars⟩ := ofIdentifier name qualified.2
      have parts : word = word.takeWhile isIdentifierChar ++ '.' :: name := by
        rw [← behind, List.takeWhile_append_dropWhile]
      constructor
      · -- The first identifier alone has a character.
        intro nothing
        rw [nothing] at some
        exact some rfl
      · have point : isWordChar '.' = true := by decide
        rw [parts, List.all_append, List.all_cons, chars, point, nameChars]
        rfl
    · contradiction

/-- A column with plain names is rendered as the name of a column. -/
theorem Column.IsPlain.isColumnName_render {column : Column} (plain : column.IsPlain)
    (qualified : Bool) : isColumnName (column.render qualified).toList = true := by
  -- The names stand on both sides of a point, or the column's own stands alone.
  cases qualified with
  | true =>
    rw [Column.render, if_pos rfl, String.toList_append, String.toList_append, List.append_assoc]
    exact isColumnName_qualified plain.1 plain.2
  | false =>
    have alone : isIdentifier (column.render false).toList = true := plain.2
    rw [isColumnName, alone, Bool.true_or]

namespace Symbol

/-- Apart from names, the text of a symbol is its lexeme with blanks around it. -/
theorem lexemes_text {symbol : Symbol} (unnamed : ∀ name, symbol ≠ .name name) (position : Nat) :
    lexemes (symbol.text (Condition.questionMark position)).toList = [symbol.lexeme] := by
  -- The texts are fixed, so each of them is cut by computation.
  cases symbol with
  | opening => exact (by decide : lexemes "( ".toList = [['(']])
  | closing => exact (by decide : lexemes " )".toList = [[')']])
  | word connective =>
    show lexemes (" " ++ connective.sql ++ " ").toList = [connective.sql.toList]
    cases connective <;> decide
  | operator comparison =>
    show lexemes (" " ++ comparison.sql ++ " ").toList = [comparison.sql.toList]
    cases comparison <;> decide
  | name name => exact absurd rfl (unnamed name)
  | place bound => exact (by decide : lexemes "?".toList = [['?']])

/-- Apart from names, the text of a symbol ends with a character that nothing behind it joins. -/
theorem joins_getLast_text {symbol : Symbol} (unnamed : ∀ name, symbol ≠ .name name)
    (position : Nat) {last : Char}
    (ends : last ∈ (symbol.text (Condition.questionMark position)).toList.getLast?) (next : Char) :
    joins last next = false := by
  -- The character stands alone: it is a blank, a closing parenthesis or a question mark.
  have alone : (!isWordChar last && !isOperatorChar last) = true := by
    have all : ((symbol.text (Condition.questionMark position)).toList.getLast?.all fun char =>
        !isWordChar char && !isOperatorChar char) = true := by
      cases symbol with
      | opening => exact (by decide : ("( ".toList.getLast?.all fun char =>
          !isWordChar char && !isOperatorChar char) = true)
      | closing => exact (by decide : (" )".toList.getLast?.all fun char =>
          !isWordChar char && !isOperatorChar char) = true)
      | word connective =>
        show ((" " ++ connective.sql ++ " ").toList.getLast?.all fun char =>
          !isWordChar char && !isOperatorChar char) = true
        cases connective <;> decide
      | operator comparison =>
        show ((" " ++ comparison.sql ++ " ").toList.getLast?.all fun char =>
          !isWordChar char && !isOperatorChar char) = true
        cases comparison <;> decide
      | name name => exact absurd rfl (unnamed name)
      | place bound => exact (by decide : ("?".toList.getLast?.all fun char =>
          !isWordChar char && !isOperatorChar char) = true)
    rw [Option.mem_def] at ends
    rwa [ends] at all
  simp only [Bool.and_eq_true, Bool.not_eq_true'] at alone
  simp [joins, alone]

/-- A text of symbols is cut into their lexemes, if names are set apart from what follows them. -/
theorem lexemes_spell {symbols : List Symbol} (chain : symbols.IsChain MayPrecede)
    (named : ∀ name, .name name ∈ symbols → isColumnName name.toList = true) (position : Nat) :
    lexemes (spell Condition.questionMark position symbols) = symbols.map lexeme := by
  induction symbols generalizing position with
  | nil => rfl
  | cons symbol rest ih =>
    obtain ⟨behind, chainRest⟩ := List.isChain_cons.mp chain
    have later := ih chainRest (fun name member => named name (List.mem_cons_of_mem _ member))
      (position + symbol.bound?.toList.length)
    -- The first text is one lexeme, and its end joins nothing that comes behind it.
    have first : lexemes (symbol.text (Condition.questionMark position)).toList =
          [symbol.lexeme] ∧
        ∀ last ∈ (symbol.text (Condition.questionMark position)).toList.getLast?,
          ∀ next ∈ (spell Condition.questionMark (position + symbol.bound?.toList.length)
            rest).head?, joins last next = false := by
      by_cases isName : ∃ name, symbol = .name name
      · obtain ⟨name, rfl⟩ := isName
        obtain ⟨some, chars⟩ := isWordChar_of_isColumnName (named name List.mem_cons_self)
        refine ⟨lexemes_word some chars, fun last _ next found => ?_⟩
        -- What follows a name starts with a blank, which joins nothing.
        cases rest with
        | nil => simp [spell] at found
        | cons other others =>
          have apart : other.startsApart = true := behind other rfl rfl
          rw [head?_spell apart, Option.mem_some] at found
          rw [← found]
          have blank : isWordChar ' ' = false ∧ isOperatorChar ' ' = false := by decide
          simp [joins, blank]
      · have unnamed : ∀ name, symbol ≠ .name name := fun name same => isName ⟨name, same⟩
        exact ⟨lexemes_text unnamed position,
          fun last ends next _ => joins_getLast_text unnamed position ends next⟩
    rw [spell, lexemes_append first.2, first.1, later]
    rfl

/-- The word of a connective stands for it. -/
theorem ofLexeme?_word (connective : Connective) :
    ofLexeme? connective.sql.toList = some (.word connective) := by
  -- It is a keyword, and so the name of no column.
  have noName : isColumnName connective.sql.toList = false := by cases connective <;> decide
  have noOpening : connective.sql.toList ≠ ['('] := by cases connective <;> decide
  have noClosing : connective.sql.toList ≠ [')'] := by cases connective <;> decide
  have found : Connective.ofWord? connective.sql.toList = some connective := by
    cases connective <;> decide
  simp [ofLexeme?, noName, noOpening, noClosing, found]

/-- The operator of a comparison stands for it. -/
theorem ofLexeme?_operator (comparison : Comparison) :
    ofLexeme? comparison.sql.toList = some (.operator comparison) := by
  -- It has a character that no name has, or it is a keyword, and it is no connective.
  have noName : isColumnName comparison.sql.toList = false := by cases comparison <;> decide
  have noOpening : comparison.sql.toList ≠ ['('] := by cases comparison <;> decide
  have noClosing : comparison.sql.toList ≠ [')'] := by cases comparison <;> decide
  have noWord : Connective.ofWord? comparison.sql.toList = none := by cases comparison <;> decide
  have found : Comparison.ofOperator? comparison.sql.toList = some comparison := by
    cases comparison <;> decide
  simp [ofLexeme?, noName, noOpening, noClosing, noWord, found]

/-- The name of a column stands for itself. -/
theorem ofLexeme?_name {name : String} (named : isColumnName name.toList = true) :
    ofLexeme? name.toList = some (.name name) := by
  -- A parenthesis is not the name of a column.
  have noOpening : name.toList ≠ ['('] := by
    intro opening
    rw [opening] at named
    exact absurd named (by decide)
  have noClosing : name.toList ≠ [')'] := by
    intro closing
    rw [closing] at named
    exact absurd named (by decide)
  simp [ofLexeme?, named, noOpening, noClosing]

/-- A question mark stands for no symbol without a value. -/
theorem ofLexeme?_questionMark : ofLexeme? ['?'] = none := by
  -- The symbols with a lexeme are tried one after the other.
  have noName : isColumnName ['?'] = false := by decide
  have noWord : Connective.ofWord? ['?'] = none := by decide
  have noOperator : Comparison.ofOperator? ['?'] = none := by decide
  simp [ofLexeme?, noName, noWord, noOperator]

/-- The lexeme of a symbol stands for it, places apart. -/
theorem ofLexeme?_lexeme {symbol : Symbol} (unbound : symbol.bound? = none)
    (named : ∀ name, symbol = .name name → isColumnName name.toList = true) :
    ofLexeme? symbol.lexeme = some symbol := by
  -- Every other symbol is written in its own way; a place is shown by its value.
  cases symbol with
  | opening => rfl
  | closing => rfl
  | word connective => exact ofLexeme?_word connective
  | operator comparison => exact ofLexeme?_operator comparison
  | name name => exact ofLexeme?_name (named name rfl)
  | place bound => simp [bound?] at unbound

/-- Symbols are read from their lexemes and the values at their places. -/
theorem ofLexemes?_map_lexeme {symbols : List Symbol}
    (named : ∀ name, .name name ∈ symbols → isColumnName name.toList = true) :
    ofLexemes? (symbols.map lexeme) (values symbols) = some symbols := by
  induction symbols with
  | nil => rfl
  | cons symbol rest ih =>
    have later := ih fun name member => named name (List.mem_cons_of_mem _ member)
    by_cases isPlace : ∃ bound, symbol = .place bound
    · -- A question mark takes the first value, and the rest of the lexemes the others.
      obtain ⟨bound, rfl⟩ := isPlace
      have first : values (.place bound :: rest) = bound :: values rest := rfl
      rw [List.map_cons, lexeme, first, ofLexemes?, later]
      rfl
    · have unbound : symbol.bound? = none := by
        cases symbol with
        | place bound => exact absurd ⟨bound, rfl⟩ isPlace
        | _ => rfl
      have same : values (symbol :: rest) = values rest := by simp [values, unbound]
      have own : ofLexeme? symbol.lexeme = some symbol :=
        ofLexeme?_lexeme unbound fun name equal => named name (equal ▸ List.mem_cons_self)
      -- The lexeme stands for a symbol, which a question mark alone does not.
      have unmarked : symbol.lexeme ≠ ['?'] := by
        intro marked
        rw [marked, ofLexeme?_questionMark] at own
        contradiction
      rw [List.map_cons, same, ofLexemes?, own, later]
      · rfl
      · exact fun _ _ _ marked => unmarked marked

/-- A text that symbols are spelled out as is read as these symbols with their values. -/
theorem read?_of_spell {symbols : List Symbol} (chain : symbols.IsChain MayPrecede)
    (named : ∀ name, .name name ∈ symbols → isColumnName name.toList = true) {text : String}
    (spelled : text.toList = spell Condition.questionMark 0 symbols) :
    read? text (values symbols) = some symbols := by
  rw [read?, spelled, lexemes_spell chain named, ofLexemes?_map_lexeme named]

end Symbol

end RowQuery
