import Mathlib.Algebra.GroupWithZero.Nat
import RowQuery.Proofs.Statement.Shown

/-!
Places and bound values correspond. A text has one question mark for every value it binds, besides
those in names, and the n-th of them stands where the n-th value is compared.
-/

namespace RowQuery

/-- The number of question marks in a text. -/
def questionMarks (text : String) : Nat :=
  text.toList.count '?'

@[simp] theorem questionMarks_append (left right : String) :
    questionMarks (left ++ right) = questionMarks left + questionMarks right := by
  simp [questionMarks]

/-- A separated list has the question marks of its texts. -/
theorem questionMarks_intercalate {separator : String} (unmarked : questionMarks separator = 0)
    (texts : List String) :
    questionMarks (separator.intercalate texts) = (texts.map questionMarks).sum := by
  -- A separator stands in front of every text but the first, and adds nothing.
  induction texts with
  | nil => rfl
  | cons text rest ih =>
    cases rest with
    | nil => simp
    | cons other rest => simp [unmarked, ih]

/-- Plain characters are no question marks. -/
theorem count_of_isPlainChar {chars : List Char} (plain : chars.all isPlainChar = true) :
    chars.count '?' = 0 := by
  -- A question mark among the characters would have to be plain itself.
  refine List.count_eq_zero.mpr fun marked => ?_
  have impossible := List.all_eq_true.mp plain '?' marked
  exact absurd impossible (by decide)

/-- Symbols are spelled out with a question mark for every value, besides those in names. -/
theorem Symbol.count_spell (position : Nat) (symbols : List Symbol) :
    (spell Condition.questionMark position symbols).count '?' =
      (values symbols).length + ((names symbols).map questionMarks).sum := by
  induction symbols generalizing position with
  | nil => rfl
  | cons symbol rest ih =>
    have first : (symbol.text (Condition.questionMark position)).toList.count '?' =
        symbol.bound?.toList.length + (symbol.name?.toList.map questionMarks).sum := by
      -- A name counts for its own question marks, and of the other symbols only a place has one.
      cases symbol with
      | name name => simp [text, bound?, name?, questionMarks]
      | place bound => exact (by decide : "?".toList.count '?' = 1)
      | opening => exact count_of_isPlainChar (all_isPlainChar_text (by simp) rfl _)
      | closing => exact count_of_isPlainChar (all_isPlainChar_text (by simp) rfl _)
      | word connective => exact count_of_isPlainChar (all_isPlainChar_text (by simp) rfl _)
      | operator comparison => exact count_of_isPlainChar (all_isPlainChar_text (by simp) rfl _)
    -- What one symbol adds to the values and to the names it adds to the question marks.
    have later := ih (position + symbol.bound?.toList.length)
    have bound : values (symbol :: rest) = symbol.bound?.toList ++ values rest := rfl
    have named : names (symbol :: rest) = symbol.name?.toList ++ names rest := rfl
    rw [spell, List.count_append, first, later, bound, named, List.length_append, List.map_append,
      List.sum_append]
    omega

/-- A text with the given texts in place of its question marks, one after the other. -/
def fillPlaces (texts : List String) : List Char → List Char
  | [] => []
  | char :: rest =>
    if char = '?' then (texts.head?.getD "?").toList ++ fillPlaces texts.tail rest
    else char :: fillPlaces texts rest

/-- The rewriter that fills places; its state is the texts still to be put in. -/
def filler : Rewriter (List String) where
  after texts char := if char = '?' then texts.tail else texts
  written texts char := if char = '?' then (texts.head?.getD "?").toList else [char]

/-- Places are filled by rewriting. -/
theorem output_filler (texts : List String) (chars : List Char) :
    filler.output texts chars = fillPlaces texts chars := by
  -- At a question mark both take a text, and elsewhere neither does.
  induction chars generalizing texts with
  | nil => rfl
  | cons char rest ih =>
    rw [Rewriter.output, fillPlaces, ih]
    by_cases place : char = '?' <;> simp [filler, place]

/-- A text without question marks is kept while places are filled. -/
theorem filler_keeps {state : Nat → List String} {chars : List Char} (unmarked : '?' ∉ chars) :
    filler.Keeps state chars := by
  induction chars with
  | nil => exact .nil
  | cons char rest ih =>
    rw [List.mem_cons, not_or] at unmarked
    have plain : char ≠ '?' := Ne.symm unmarked.1
    -- A character that is no question mark neither takes a text nor is it replaced.
    have first : filler.Keeps state [char] := fun position =>
      ⟨by simp [Rewriter.final, filler, plain], by simp [Rewriter.output, filler, plain]⟩
    exact first.append (ih unmarked.2)

/-- Filling places replaces the question marks by the texts from the first on. -/
theorem filler_replacesPlaces (texts : List String) :
    filler.ReplacesPlaces (fun position => texts.drop position)
      (fun position => texts[position]?.getD "?") where
  atPlace position := by
    constructor
    · simp [Rewriter.final, filler]
    · simp [Rewriter.output, filler]
  atPlain char plain := by
    -- A plain character is no question mark, and that is all the filler asks.
    refine filler_keeps fun marked => ?_
    rw [List.mem_singleton] at marked
    rw [← marked] at plain
    exact absurd plain (by decide)

/-- A column whose names have no question mark. -/
def Column.Unmarked (column : Column) : Prop :=
  '?' ∉ column.table.toList ∧ '?' ∉ column.name.toList

/-- A column with unmarked names stands in a text without question marks. -/
theorem Column.Unmarked.questionMarks_render {column : Column} (unmarked : column.Unmarked)
    (qualified : Bool) : questionMarks (column.render qualified) = 0 := by
  have table : questionMarks column.table = 0 := List.count_eq_zero.mpr unmarked.1
  have name : questionMarks column.name = 0 := List.count_eq_zero.mpr unmarked.2
  -- A qualified column shows both of its names, with a point between them.
  cases qualified with
  | false => exact name
  | true =>
    have point : questionMarks "." = 0 := by decide
    rw [Column.render, if_pos rfl, questionMarks_append, questionMarks_append, table, point, name]

/-- Names without question marks have none together. -/
theorem sum_questionMarks_eq_zero {names : List String}
    (unmarked : ∀ name ∈ names, questionMarks name = 0) : (names.map questionMarks).sum = 0 := by
  refine List.sum_eq_zero_iff_forall_eq_nat.mpr fun count member => ?_
  obtain ⟨name, named, rfl⟩ := List.mem_map.mp member
  exact unmarked name named

/-- A text whose places correspond to the values it binds: it has one question mark for every value,
and texts put in their places, each chosen for the value of the same number, show at every
comparison the text chosen for the value compared there. -/
structure Aligned (text : String) (binds : List Value)
    (textWith : (Nat → Value → String) → String) : Prop where
  count : questionMarks text = binds.length
  fill : ∀ shown, fillPlaces (binds.mapIdx shown) text.toList = (textWith shown).toList

namespace Condition

/-- A condition has as many question marks as it binds values, besides those in names. -/
theorem questionMarks_render (condition : Condition) (qualified : Bool) :
    questionMarks (condition.render qualified) =
      condition.binds.length + ((condition.comparedColumns.map fun column =>
        column.render qualified).map questionMarks).sum := by
  rw [questionMarks, toList_render, Symbol.count_spell, values_symbols, names_symbols]

end Condition

namespace Selection

/-- The names in the text of a selection as they stand there. -/
def renderedNames (selection : Selection) : List String :=
  (selection.columns.map fun column => column.render selection.isQualified) ++ selection.tables ++
    ((Condition.comparedColumnsOfAll selection.conditions).map fun column =>
      column.render selection.isQualified) ++
    selection.order.map fun term => term.column.render selection.isQualified

/-- The condition of a selection has as many question marks as the selection binds values, besides
those in names. -/
theorem count_whereClauseWith (selection : Selection) :
    (selection.whereClauseWith Condition.questionMark).toList.count '?' =
      selection.toStatement.binds.length +
        (((Condition.comparedColumnsOfAll selection.conditions).map fun column =>
          column.render selection.isQualified).map questionMarks).sum := by
  -- The condition has the question marks of its symbols.
  have counted := Symbol.count_spell 0 selection.symbols
  have named : Symbol.names selection.symbols =
      (Condition.comparedColumnsOfAll selection.conditions).map fun column =>
        column.render selection.isQualified :=
    Condition.names_joinedSymbols selection.isQualified .all selection.conditions
  rw [values_symbols, named] at counted
  rw [toList_whereClauseWith, ← counted]
  -- Without symbols there is no keyword either, which has no question mark anyway.
  by_cases nothing : selection.symbols = []
  · rw [if_pos nothing, nothing, Symbol.spell]
  · have keyword : " WHERE ".toList.count '?' = 0 := by decide
    rw [if_neg nothing, List.count_append, keyword, Nat.zero_add]

/-- The order of rows has the question marks of its columns. -/
theorem questionMarks_orderClause (selection : Selection) :
    questionMarks selection.orderClause =
      ((selection.order.map fun term => term.column.render selection.isQualified).map
        questionMarks).sum := by
  have comma : questionMarks ", " = 0 := by decide
  -- The direction behind a column has no question mark.
  have term : ∀ term : OrderTerm, questionMarks (term.render selection.isQualified) =
      questionMarks (term.column.render selection.isQualified) := by
    intro term
    have blank : questionMarks " " = 0 := by decide
    have direction : questionMarks term.direction.sql = 0 := by cases term.direction <;> decide
    rw [OrderTerm.render, questionMarks_append, questionMarks_append, blank, direction]
    rfl
  rw [orderClause]
  by_cases unordered : selection.order = []
  · rw [if_pos unordered, unordered]
    rfl
  · have keyword : questionMarks " ORDER BY " = 0 := by decide
    rw [if_neg unordered, questionMarks_append, keyword, questionMarks_intercalate comma,
      List.map_map, List.map_map, Nat.zero_add]
    exact congrArg List.sum (List.map_congr_left fun single _ => term single)

/-- A selection has as many question marks as it binds values, besides those in names. -/
theorem placeholders_toStatement (selection : Selection) :
    selection.toStatement.placeholders =
      selection.toStatement.binds.length + (selection.renderedNames.map questionMarks).sum := by
  have comma : questionMarks ", " = 0 := by decide
  have select : questionMarks "SELECT " = 0 := by decide
  have source : questionMarks " FROM " = 0 := by decide
  -- The text is counted in its three parts: up to the tables, the conditions, and the order.
  have front : selection.front.toList.count '?' =
      ((selection.columns.map fun column => column.render selection.isQualified).map
        questionMarks).sum + (selection.tables.map questionMarks).sum := by
    show questionMarks selection.front = _
    delta front columnList
    rw [questionMarks_append, questionMarks_append, questionMarks_append, select, source,
      questionMarks_intercalate comma, questionMarks_intercalate comma, Nat.zero_add, Nat.add_zero]
  have order : selection.orderClause.toList.count '?' =
      ((selection.order.map fun term => term.column.render selection.isQualified).map
        questionMarks).sum := selection.questionMarks_orderClause
  rw [Statement.placeholders, ← sqlWith_questionMark, toList_sqlWith, List.count_append,
    List.count_append, front, order, count_whereClauseWith, renderedNames, List.map_append,
    List.map_append, List.map_append, List.sum_append, List.sum_append, List.sum_append]
  omega

/-- A selection binds as many values as its conditions have places. -/
theorem length_binds (selection : Selection) :
    selection.toStatement.binds.length =
      (selection.conditions.map Condition.placeholders).sum := by
  -- The conjunction of the conditions binds what they bind, one after the other.
  have bound : selection.toStatement.binds = Condition.bindsOfAll selection.conditions := rfl
  rw [bound, ← Condition.placeholdersOfAll_eq_length]
  induction selection.conditions with
  | nil => rfl
  | cons condition rest ih =>
    rw [Condition.placeholdersOfAll, List.map_cons, List.sum_cons, ih]

/-- With unmarked columns, no name in a selection has a question mark. -/
theorem questionMarks_of_mem_renderedNames {selection : Selection}
    (unmarked : ∀ column ∈ selection.namedColumns, column.Unmarked) {name : String}
    (member : name ∈ selection.renderedNames) : questionMarks name = 0 := by
  simp only [renderedNames, List.mem_append, List.mem_map] at member
  -- A name belongs to a selected column, is its table, or belongs to a compared or ordering column.
  rcases member with
    ((⟨column, selected, rfl⟩ | table) | ⟨column, compared, rfl⟩) | ⟨term, ordered, rfl⟩
  · exact (unmarked column (by simp [namedColumns, selected])).questionMarks_render _
  · obtain ⟨column, selected, rfl⟩ := exists_column_of_mem_tables table
    exact List.count_eq_zero.mpr (unmarked column (by simp [namedColumns, selected])).1
  · exact (unmarked column (by simp [namedColumns, compared])).questionMarks_render _
  · have named : term.column ∈ selection.namedColumns :=
      List.mem_append_right _ (List.mem_map_of_mem ordered)
    exact (unmarked term.column named).questionMarks_render _

/-- With unmarked names, the texts put in the places of a selection are shown at its comparisons. -/
theorem fillPlaces_toStatement {selection : Selection}
    (unmarked : ∀ column ∈ selection.namedColumns, column.Unmarked)
    (shown : Nat → Value → String) :
    fillPlaces (selection.toStatement.binds.mapIdx shown) selection.toStatement.sql.toList =
      (selection.sqlWith shown).toList := by
  have replaces := filler_replacesPlaces (selection.toStatement.binds.mapIdx shown)
  -- Names without question marks are kept, so the filler puts its texts at the places alone.
  have written := selection.writes_sql replaces fun column named =>
    ⟨filler_keeps (unmarked column named).1, filler_keeps (unmarked column named).2⟩
  have filled := written.output_eq
  rw [output_filler, List.drop_zero] at filled
  rw [filled]
  -- Every place has a bound value, and the text with its number was chosen for that value.
  refine congrArg String.toList (sqlWith_congr fun place bound found => ?_)
  rw [List.getElem?_mapIdx, found]
  rfl

end Selection

/-- With unmarked names, the texts put in the places of a condition are shown at its comparisons. -/
theorem Condition.fillPlaces_render {condition : Condition}
    (unmarked : ∀ column ∈ condition.comparedColumns, column.Unmarked) (qualified : Bool)
    (shown : Nat → Value → String) :
    fillPlaces (condition.binds.mapIdx shown) (condition.render qualified).toList =
      (condition.renderWith shown qualified 0).toList := by
  have replaces := filler_replacesPlaces (condition.binds.mapIdx shown)
  have names : ∀ name, .name name ∈ condition.symbols qualified →
      filler.Keeps (fun position => (condition.binds.mapIdx shown).drop position) name.toList := by
    intro name member
    rw [← Symbol.mem_names, names_symbols] at member
    obtain ⟨column, compared, rfl⟩ := List.mem_map.mp member
    exact column.keeps_render replaces (filler_keeps (unmarked column compared).1)
      (filler_keeps (unmarked column compared).2) qualified
  have filled := (replaces.writes_spell names 0).output_eq
  rw [output_filler, List.drop_zero] at filled
  rw [toList_render, filled, toList_renderWith]
  -- Every place has a bound value, and the text with its number was chosen for that value.
  refine Symbol.spell_congr fun place bound found => ?_
  rw [values_symbols] at found
  rw [Nat.zero_add, List.getElem?_mapIdx, found]
  rfl

/-- The places of selections and of conditions correspond to the values they bind. A text has a
question mark for every bound value, besides those in its names, and a selection binds as many
values as its conditions have places. If no name has a question mark, texts put in the places are
shown at the comparisons of the values they were chosen for. -/
theorem places_align_with_binds (selection : Selection) (condition : Condition) (qualified : Bool) :
    (selection.toStatement.placeholders =
        selection.toStatement.binds.length + (selection.renderedNames.map questionMarks).sum ∧
      selection.toStatement.binds.length =
        (selection.conditions.map Condition.placeholders).sum ∧
      ((∀ column ∈ selection.namedColumns, column.Unmarked) →
        Aligned selection.toStatement.sql selection.toStatement.binds selection.sqlWith)) ∧
    (questionMarks (condition.render qualified) =
        condition.binds.length + ((condition.comparedColumns.map fun column =>
          column.render qualified).map questionMarks).sum ∧
      condition.binds.length = condition.placeholders ∧
      ((∀ column ∈ condition.comparedColumns, column.Unmarked) →
        Aligned (condition.render qualified) condition.binds fun shown =>
          condition.renderWith shown qualified 0)) := by
  constructor
  · -- With unmarked names, the question marks in names that were counted apart are none.
    refine ⟨selection.placeholders_toStatement, selection.length_binds, fun unmarked => ⟨?_, ?_⟩⟩
    · have counted := selection.placeholders_toStatement
      rw [sum_questionMarks_eq_zero fun name =>
        Selection.questionMarks_of_mem_renderedNames unmarked] at counted
      exact counted
    · exact Selection.fillPlaces_toStatement unmarked
  · refine ⟨condition.questionMarks_render qualified, condition.placeholders_eq_length.symm,
      fun unmarked => ⟨?_, ?_⟩⟩
    · have none : ∀ name ∈ condition.comparedColumns.map fun column => column.render qualified,
          questionMarks name = 0 := by
        intro name member
        obtain ⟨column, compared, rfl⟩ := List.mem_map.mp member
        exact (unmarked column compared).questionMarks_render qualified
      rw [condition.questionMarks_render qualified, sum_questionMarks_eq_zero none, Nat.add_zero]
    · exact Condition.fillPlaces_render unmarked qualified

/-- A selection from two tables, by an older age or a name in a group beside an empty one, binds two
values, and texts for them are shown at the two comparisons. -/
theorem places_align_with_binds_of_nested_groups :
    let age : Column := ⟨"users", "age"⟩
    let name : Column := ⟨"users", "name"⟩
    let owner : Column := ⟨"orders", "owner"⟩
    let condition := Condition.any [.value age .greater (.int 18), .all [],
      .all [.columns name .equal owner, .value name .like (.text "a?%")]]
    let selection : Selection :=
      ⟨[name, owner], [.all [.any []], condition], [⟨age, .descending⟩], {}⟩
    (∀ column ∈ selection.namedColumns, column.Unmarked) ∧
      (∀ column ∈ condition.comparedColumns, column.Unmarked) ∧
      questionMarks selection.toStatement.sql = 2 ∧
      fillPlaces ["18", "'a?%'"] (condition.render false).toList =
        "( age > 18 OR ( name = owner AND name LIKE 'a?%' ) )".toList := by
  intro age name owner condition selection
  have named : ∀ column ∈ selection.namedColumns, column.Unmarked := by
    simp only [Column.Unmarked]
    decide
  have compared : ∀ column ∈ condition.comparedColumns, column.Unmarked := by
    simp only [Column.Unmarked]
    decide
  -- The literal of the second value has a question mark itself, which is not filled again.
  have aligned := places_align_with_binds selection condition false
  refine ⟨named, compared, (aligned.1.2.2 named).count, ?_⟩
  exact (aligned.2.2.2 compared).fill fun place _ => if place = 0 then "18" else "'a?%'"

end RowQuery
