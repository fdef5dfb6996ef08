import Mathlib.Data.List.Chain
import RowQuery.Condition

/-!
The text of a condition as a row of symbols. Whatever is shown at the places of the bound values,
the text is the symbols spelled out one after the other, and the values stand at the places in
order.
-/

namespace RowQuery

/-- A symbol in the text of a condition. -/
inductive Symbol where
  | opening
  | closing
  /-- The word between joined conditions. -/
  | word (connective : Connective)
  | operator (comparison : Comparison)
  | name (text : String)
  /-- The place of a bound value. -/
  | place (bound : Value)

namespace Symbol

/-- The text of a symbol with the blanks that set it apart, and with what is shown at a place. -/
def text (shown : Value → String) : Symbol → String
  | .opening => "( "
  | .closing => " )"
  | .word connective => " " ++ connective.sql ++ " "
  | .operator comparison => " " ++ comparison.sql ++ " "
  | .name text => text
  | .place bound => shown bound

/-- The value bound at a symbol, if it is a place. -/
def bound? : Symbol → Option Value
  | .place bound => some bound
  | _ => none

/-- Symbols spelled out from a position on. What is shown at a place depends on its position among
the places and on the value bound there. -/
def spell (shown : Nat → Value → String) (position : Nat) : List Symbol → List Char
  | [] => []
  | symbol :: rest =>
    (symbol.text (shown position)).toList ++
      spell shown (position + symbol.bound?.toList.length) rest

/-- The values bound at symbols, in order. -/
def values (symbols : List Symbol) : List Value :=
  symbols.flatMap fun symbol => symbol.bound?.toList

/-- The text of a symbol, if it is a name. -/
def name? : Symbol → Option String
  | .name text => some text
  | _ => none

/-- The names among symbols, in order. -/
def names (symbols : List Symbol) : List String :=
  symbols.flatMap fun symbol => symbol.name?.toList

/-- A name is among the names of symbols exactly if it is one of the symbols. -/
theorem mem_names {symbols : List Symbol} {text : String} :
    text ∈ names symbols ↔ .name text ∈ symbols := by
  -- Only a name contributes to the names, and it contributes itself.
  simp only [names, List.mem_flatMap, Option.mem_toList]
  constructor
  · rintro ⟨symbol, member, named⟩
    cases symbol with
    | name other =>
      obtain rfl : other = text := by simpa [name?] using named
      exact member
    | _ => simp [name?] at named
  · exact fun member => ⟨.name text, member, rfl⟩

/-- The values of one row of symbols after another are those of both. -/
@[simp] theorem values_append (left right : List Symbol) :
    values (left ++ right) = values left ++ values right := by
  simp [values]

/-- Symbols after others are spelled out from the position that the others lead to. -/
theorem spell_append (shown : Nat → Value → String) (position : Nat) (left right : List Symbol) :
    spell shown position (left ++ right) =
      spell shown position left ++ spell shown (position + (values left).length) right := by
  -- Every symbol moves the position on by as many values as are bound at it.
  induction left generalizing position with
  | nil => simp [spell, values]
  | cons symbol rest ih =>
    simp [spell, ih, values, Nat.add_assoc]

/-- What is spelled out depends on what is shown for the values that are bound, and on nothing else
that might be shown. -/
theorem spell_congr {shown other : Nat → Value → String} {symbols : List Symbol} {position : Nat}
    (same : ∀ place bound, (values symbols)[place]? = some bound →
      shown (position + place) bound = other (position + place) bound) :
    spell shown position symbols = spell other position symbols := by
  induction symbols generalizing position with
  | nil => rfl
  | cons symbol rest ih =>
    -- A place takes the first value, and the rest of the symbols the others.
    have later : spell shown (position + symbol.bound?.toList.length) rest =
        spell other (position + symbol.bound?.toList.length) rest := by
      refine ih fun place bound found => ?_
      have moved := same (symbol.bound?.toList.length + place) bound (by
        rw [values, List.flatMap_cons, List.getElem?_append_right (by omega),
          Nat.add_sub_cancel_left]
        exact found)
      rwa [← Nat.add_assoc] at moved
    cases symbol with
    | place bound =>
      -- The value at the head of the row is the first of all values.
      have first : shown position bound = other position bound := same 0 bound rfl
      rw [spell, spell, later, text, text, first]
    | _ => rw [spell, spell, later]; rfl

/-- Whether a symbol is a side of a comparison. -/
def isOperand : Symbol → Bool
  | .name _ => true
  | .place _ => true
  | _ => false

/-- Whether the text of a symbol starts with a blank. -/
def startsApart : Symbol → Bool
  | .closing => true
  | .word _ => true
  | .operator _ => true
  | _ => false

/-- A symbol may stand directly behind another one, if it sets itself apart from a side of a
comparison. -/
def MayPrecede (left right : Symbol) : Prop :=
  left.isOperand = true → right.startsApart = true

/-- A row of symbols is spelled out with a blank in front, if its first symbol starts with one. -/
theorem head?_spell {symbol : Symbol} (apart : symbol.startsApart = true)
    (shown : Nat → Value → String) (position : Nat) (rest : List Symbol) :
    (spell shown position (symbol :: rest)).head? = some ' ' := by
  rw [spell]
  -- Of the six symbols three start with a blank.
  cases symbol with
  | closing => simp [text]
  | word connective => simp [text]
  | operator comparison => simp [text]
  | opening => contradiction
  | name name => contradiction
  | place bound => contradiction

/-- A comparison is never spelled out as nothing. -/
theorem spell_ne_nil {symbols : List Symbol} {comparison : Comparison}
    (member : .operator comparison ∈ symbols) (shown : Nat → Value → String) (position : Nat) :
    spell shown position symbols ≠ [] := by
  induction symbols generalizing position with
  | nil => simp at member
  | cons symbol rest ih =>
    -- The operator is spelled out with blanks around it, wherever it stands.
    rcases List.mem_cons.mp member with rfl | later
    · simp [spell, text]
    · simp [spell, ih later]

/-- Symbols between parentheses, unless there are none. -/
def enclose : List Symbol → List Symbol
  | [] => []
  | first :: rest => .opening :: (first :: rest ++ [.closing])

/-- Two rows of symbols with a connective between them, unless one of them is empty. -/
def join (connective : Connective) : List Symbol → List Symbol → List Symbol
  | [], right => right
  | left, [] => left
  | left, right => left ++ .word connective :: right

/-- Nothing is joined with an empty row in front. -/
@[simp] theorem nil_join (connective : Connective) (right : List Symbol) :
    join connective [] right = right := rfl

/-- Nothing is joined with an empty row behind. -/
@[simp] theorem join_nil (connective : Connective) (left : List Symbol) :
    join connective left [] = left := by
  cases left <;> rfl

/-- Rows that are not empty have the connective between them. -/
theorem join_of_ne_nil (connective : Connective) {left right : List Symbol} (first : left ≠ [])
    (second : right ≠ []) :
    join connective left right = left ++ .word connective :: right := by
  -- Joining leaves the connective out beside an empty row, and neither is empty here.
  cases left with
  | nil => contradiction
  | cons _ _ =>
    cases right with
    | nil => contradiction
    | cons _ _ => rfl

/-- Symbols between parentheses are spelled out between them. -/
theorem spell_enclose (shown : Nat → Value → String) (position : Nat) {symbols : List Symbol}
    (some : symbols ≠ []) :
    spell shown position (enclose symbols) =
      "( ".toList ++ spell shown position symbols ++ " )".toList := by
  cases symbols with
  | nil => contradiction
  | cons first rest =>
    -- The opening parenthesis binds nothing, so the position is still that of the first symbol.
    rw [enclose, spell, spell_append]
    simp [text, bound?, spell]

/-- Joined symbols are spelled out with the connective between them. -/
theorem spell_join (shown : Nat → Value → String) (position : Nat) (connective : Connective)
    {left right : List Symbol} (first : left ≠ []) (second : right ≠ []) :
    spell shown position (join connective left right) =
      spell shown position left ++ (" " ++ connective.sql ++ " ").toList ++
        spell shown (position + (values left).length) right := by
  rw [join_of_ne_nil connective first second, spell_append]
  simp [spell, text, bound?]

/-- Parentheses are no names. -/
@[simp] theorem names_enclose (symbols : List Symbol) :
    names (enclose symbols) = names symbols := by
  cases symbols <;> simp [enclose, names, name?]

/-- A connective is no name. -/
@[simp] theorem names_join (connective : Connective) (left right : List Symbol) :
    names (join connective left right) = names left ++ names right := by
  -- There is a connective only between two rows that are not empty.
  cases left with
  | nil => simp [names]
  | cons _ _ =>
    cases right with
    | nil => simp [names]
    | cons _ _ => simp [join, names, name?]

/-- Parentheses bind no value. -/
@[simp] theorem values_enclose (symbols : List Symbol) :
    values (enclose symbols) = values symbols := by
  cases symbols <;> simp [enclose, values, bound?]

/-- A connective binds no value. -/
@[simp] theorem values_join (connective : Connective) (left right : List Symbol) :
    values (join connective left right) = values left ++ values right := by
  -- There is a connective only between two rows that are not empty.
  cases left with
  | nil => simp [values]
  | cons _ _ =>
    cases right with
    | nil => simp [values]
    | cons _ _ => simp [join, values, bound?]

/-- Between parentheses, symbols follow each other as they did. -/
theorem isChain_enclose {symbols : List Symbol} (chain : symbols.IsChain MayPrecede) :
    (enclose symbols).IsChain MayPrecede := by
  cases symbols with
  | nil => exact .nil
  | cons first rest =>
    -- An opening parenthesis is no side of a comparison, and a closing one starts with a blank.
    have closed : (first :: rest ++ [Symbol.closing]).IsChain MayPrecede := by
      refine List.isChain_append.mpr ⟨chain, .singleton _, fun left _ right last => ?_⟩
      obtain rfl : Symbol.closing = right := by simpa using last
      exact fun _ => rfl
    exact List.isChain_cons.mpr ⟨fun next _ operand => absurd operand (by decide), closed⟩

/-- With a connective between them, symbols follow each other as they did. -/
theorem isChain_join (connective : Connective) {left right : List Symbol}
    (first : left.IsChain MayPrecede) (second : right.IsChain MayPrecede) :
    (join connective left right).IsChain MayPrecede := by
  by_cases noLeft : left = []
  · rwa [noLeft, nil_join]
  by_cases noRight : right = []
  · rwa [noRight, join_nil]
  -- The connective starts with a blank, and it is no side of a comparison itself.
  rw [join_of_ne_nil connective noLeft noRight]
  refine List.isChain_append.mpr ⟨first, List.isChain_cons.mpr ⟨?_, second⟩, ?_⟩
  · exact fun next _ operand => absurd operand (by simp [isOperand])
  · intro last _ next found
    obtain rfl : Symbol.word connective = next := by simpa using found
    exact fun _ => rfl

end Symbol

namespace Condition

open RowQuery.Symbol

mutual

/-- The symbols of a condition; a group without comparisons has none. -/
def symbols (qualified : Bool) : Condition → List Symbol
  | .value column comparison bound =>
    [.name (column.render qualified), .operator comparison, .place bound]
  | .columns left comparison right =>
    [.name (left.render qualified), .operator comparison, .name (right.render qualified)]
  | .group connective members => enclose (joinedSymbols qualified connective members)

/-- The symbols of conditions joined by a connective. -/
def joinedSymbols (qualified : Bool) (connective : Connective) : List Condition → List Symbol
  | [] => []
  | member :: rest =>
    join connective (member.symbols qualified) (joinedSymbols qualified connective rest)

end

/-- The symbols of a condition that stands alone, without parentheses around a group. -/
def symbolsAlone (qualified : Bool) : Condition → List Symbol
  | .group connective members => joinedSymbols qualified connective members
  | comparison => comparison.symbols qualified

mutual

/-- The values at the places of a condition are those it binds. -/
theorem values_symbols (qualified : Bool) (condition : Condition) :
    Symbol.values (condition.symbols qualified) = condition.binds := by
  cases condition with
  | value column comparison bound => simp [symbols, binds, Symbol.values, bound?]
  | columns left comparison right => simp [symbols, binds, Symbol.values, bound?]
  | group connective members =>
    -- A group binds what its members bind, and its parentheses bind nothing.
    simp [symbols, binds, values_joinedSymbols qualified connective members]

/-- The values at the places of joined conditions are those they bind. -/
theorem values_joinedSymbols (qualified : Bool) (connective : Connective)
    (members : List Condition) :
    Symbol.values (joinedSymbols qualified connective members) = bindsOfAll members := by
  cases members with
  | nil => simp [joinedSymbols, bindsOfAll, Symbol.values]
  | cons member rest =>
    -- A member without symbols binds nothing, so leaving it out loses no value.
    simp [joinedSymbols, bindsOfAll, values_symbols qualified member,
      values_joinedSymbols qualified connective rest]

end

mutual

/-- The sides of comparisons in a condition are set apart from what follows them. -/
theorem isChain_symbols (qualified : Bool) (condition : Condition) :
    (condition.symbols qualified).IsChain MayPrecede := by
  -- Inside a comparison the operator sets its sides apart; a group encloses its members.
  cases condition with
  | value column comparison bound => simp [symbols, MayPrecede, isOperand, startsApart]
  | columns left comparison right => simp [symbols, MayPrecede, isOperand, startsApart]
  | group connective members =>
    rw [symbols]
    exact isChain_enclose (isChain_joinedSymbols qualified connective members)

/-- The sides of comparisons in joined conditions are set apart from what follows them. -/
theorem isChain_joinedSymbols (qualified : Bool) (connective : Connective)
    (members : List Condition) :
    (joinedSymbols qualified connective members).IsChain MayPrecede := by
  cases members with
  | nil => simp [joinedSymbols]
  | cons member rest =>
    rw [joinedSymbols]
    exact isChain_join connective (isChain_symbols qualified member)
      (isChain_joinedSymbols qualified connective rest)

end

mutual

/-- The columns compared in a condition, in order. -/
def comparedColumns : Condition → List Column
  | .value column _ _ => [column]
  | .columns left _ right => [left, right]
  | .group _ members => comparedColumnsOfAll members

/-- The columns compared in several conditions, in order. -/
def comparedColumnsOfAll : List Condition → List Column
  | [] => []
  | member :: rest => member.comparedColumns ++ comparedColumnsOfAll rest

end

mutual

/-- The names in a condition are those of the columns compared in it. -/
theorem names_symbols (qualified : Bool) (condition : Condition) :
    Symbol.names (condition.symbols qualified) =
      condition.comparedColumns.map fun column => column.render qualified := by
  cases condition with
  | value column comparison bound => simp [symbols, comparedColumns, Symbol.names, name?]
  | columns left comparison right => simp [symbols, comparedColumns, Symbol.names, name?]
  | group connective members =>
    -- A group compares what its members compare, and its parentheses are no names.
    simp [symbols, comparedColumns, names_joinedSymbols qualified connective members]

/-- The names in joined conditions are those of the columns compared in them. -/
theorem names_joinedSymbols (qualified : Bool) (connective : Connective)
    (members : List Condition) :
    Symbol.names (joinedSymbols qualified connective members) =
      (comparedColumnsOfAll members).map fun column => column.render qualified := by
  -- A connective in between has no name in it.
  cases members with
  | nil => simp [joinedSymbols, comparedColumnsOfAll, Symbol.names]
  | cons member rest =>
    simp [joinedSymbols, comparedColumnsOfAll, names_symbols qualified member,
      names_joinedSymbols qualified connective rest]

end

mutual

/-- A condition has as many places as it binds values. -/
theorem placeholders_eq_length (condition : Condition) :
    condition.placeholders = condition.binds.length := by
  -- The count follows the condition as the list of values does.
  cases condition with
  | value column comparison bound => simp [placeholders, binds]
  | columns left comparison right => simp [placeholders, binds]
  | group connective members => simp [placeholders, binds, placeholdersOfAll_eq_length members]

/-- Several conditions have as many places as they bind values. -/
theorem placeholdersOfAll_eq_length (members : List Condition) :
    placeholdersOfAll members = (bindsOfAll members).length := by
  cases members with
  | nil => simp [placeholdersOfAll, bindsOfAll]
  | cons member rest =>
    simp [placeholdersOfAll, bindsOfAll, placeholders_eq_length member,
      placeholdersOfAll_eq_length rest]

end

mutual

/-- A condition that has symbols has a comparison among them. -/
theorem exists_comparison_of_symbols (qualified : Bool) (condition : Condition)
    (some : condition.symbols qualified ≠ []) :
    ∃ comparison, .operator comparison ∈ condition.symbols qualified := by
  cases condition with
  | value column comparison bound => exact ⟨comparison, by simp [symbols]⟩
  | columns left comparison right => exact ⟨comparison, by simp [symbols]⟩
  | group connective members =>
    -- A group has symbols only if its members have, and theirs are all among them.
    cases joined : joinedSymbols qualified connective members with
    | nil => simp [symbols, joined, enclose] at some
    | cons first rest =>
      obtain ⟨comparison, member⟩ :=
        exists_comparison_of_joinedSymbols qualified connective members (by simp [joined])
      rw [joined] at member
      exact ⟨comparison, by simpa [symbols, joined, enclose] using member⟩

/-- Joined conditions that have symbols have a comparison among them. -/
theorem exists_comparison_of_joinedSymbols (qualified : Bool) (connective : Connective)
    (members : List Condition) (some : joinedSymbols qualified connective members ≠ []) :
    ∃ comparison, .operator comparison ∈ joinedSymbols qualified connective members := by
  cases members with
  | nil => simp [joinedSymbols] at some
  | cons member rest =>
    by_cases first : member.symbols qualified = []
    · -- Without symbols in front, those of the rest are all there are.
      simp only [joinedSymbols, first, nil_join] at some ⊢
      exact exists_comparison_of_joinedSymbols qualified connective rest some
    · obtain ⟨comparison, found⟩ := exists_comparison_of_symbols qualified member first
      refine ⟨comparison, ?_⟩
      -- With or without a connective behind it, the first member keeps its comparison.
      by_cases second : joinedSymbols qualified connective rest = []
      · simpa [joinedSymbols, second] using found
      · simp [joinedSymbols, join_of_ne_nil connective first second, found]

end

end Condition

end RowQuery
