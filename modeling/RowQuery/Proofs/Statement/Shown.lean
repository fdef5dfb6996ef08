import RowQuery.Proofs.Condition.Shown
import RowQuery.Proofs.Text.Rewriter
import RowQuery.Statement.Insertion
import RowQuery.Statement.Selection

/-!
Statements with something else than a question mark shown at the places of their values. A rewriter
that replaces places and keeps all names turns the text that is sent into such a text.
-/

namespace RowQuery

namespace Selection

/-- The condition of a selection with its keyword, with the given text shown for every value. -/
def whereClauseWith (selection : Selection) (shown : Nat → Value → String) : String :=
  let condition := selection.condition.renderAloneWith shown selection.isQualified 0
  if condition = "" then "" else " WHERE " ++ condition

/-- The text of a selection with the given text shown for every value. The text may depend on the
value and on its position among the values of all conditions, depth first. -/
def sqlWith (selection : Selection) (shown : Nat → Value → String) : String :=
  "SELECT " ++ selection.columnList ++ " FROM " ++ ", ".intercalate selection.tables ++
    selection.whereClauseWith shown ++ selection.orderClause

/-- The text of a selection in front of its condition. -/
def front (selection : Selection) : String :=
  "SELECT " ++ selection.columnList ++ " FROM " ++ ", ".intercalate selection.tables

/-- A selection's text is made of three parts, of which only the condition shows values. -/
theorem toList_sqlWith (selection : Selection) (shown : Nat → Value → String) :
    (selection.sqlWith shown).toList =
      selection.front.toList ++ (selection.whereClauseWith shown).toList ++
        selection.orderClause.toList := by
  delta sqlWith front
  simp only [String.toList_append]

/-- All columns that a selection names: selected, compared, or in the order of rows. -/
def namedColumns (selection : Selection) : List Column :=
  selection.columns ++ Condition.comparedColumnsOfAll selection.conditions ++
    selection.order.map OrderTerm.column

/-- With question marks at its places a selection is sent. -/
theorem sqlWith_questionMark (selection : Selection) :
    selection.sqlWith Condition.questionMark = selection.toStatement.sql := by
  -- The parts around the condition show no values at all.
  have clause : selection.whereClauseWith Condition.questionMark = selection.whereClause := by
    rw [whereClauseWith, whereClause, Condition.renderAloneWith_questionMark]
  delta sqlWith toStatement
  rw [clause]

/-- The symbols of all conditions of a selection. -/
def symbols (selection : Selection) : List Symbol :=
  Condition.joinedSymbols selection.isQualified .all selection.conditions

/-- The values at the places of a selection are those it binds. -/
theorem values_symbols (selection : Selection) :
    Symbol.values selection.symbols = selection.toStatement.binds :=
  Condition.values_joinedSymbols selection.isQualified .all selection.conditions

/-- The condition of a selection is spelled out behind its keyword, unless it has no symbols. -/
theorem toList_whereClauseWith (selection : Selection) (shown : Nat → Value → String) :
    (selection.whereClauseWith shown).toList =
      if selection.symbols = [] then []
      else " WHERE ".toList ++ Symbol.spell shown 0 selection.symbols := by
  have spelled : (selection.condition.renderAloneWith shown selection.isQualified 0).toList =
      Symbol.spell shown 0 selection.symbols :=
    Condition.toList_renderAloneWith shown selection.isQualified 0 selection.condition
  rw [whereClauseWith]
  -- There is a keyword exactly if there are symbols to put behind it.
  by_cases nothing : selection.symbols = []
  · rw [nothing, Symbol.spell, String.toList_eq_nil_iff] at spelled
    simp [spelled, nothing]
  · have something : selection.condition.renderAloneWith shown selection.isQualified 0 ≠ "" := by
      rw [← String.toList_eq_nil_iff.ne, spelled]
      exact fun silent => nothing (Condition.joinedSymbols_eq_nil_of_spell silent)
    simp [something, nothing, spelled]

/-- A selection's text depends on what is shown for the values it binds, and on nothing else. -/
theorem sqlWith_congr {selection : Selection} {shown other : Nat → Value → String}
    (same : ∀ place bound, selection.toStatement.binds[place]? = some bound →
      shown place bound = other place bound) :
    selection.sqlWith shown = selection.sqlWith other := by
  -- The values are shown where the symbols have them, and nowhere else in the text.
  have spelled : Symbol.spell shown 0 selection.symbols =
      Symbol.spell other 0 selection.symbols := by
    refine Symbol.spell_congr fun place bound found => ?_
    rw [values_symbols] at found
    simpa using same place bound found
  have clause : selection.whereClauseWith shown = selection.whereClauseWith other := by
    rw [← String.toList_inj, toList_whereClauseWith, toList_whereClauseWith, spelled]
  delta sqlWith
  rw [clause]

/-- Conditions with the same texts give a selection the same text. -/
theorem sql_congr_conditions (selection : Selection) {conditions others : List Condition}
    (same : ∀ qualified,
      Condition.renderMembers qualified conditions = Condition.renderMembers qualified others) :
    { selection with conditions }.toStatement.sql =
      { selection with conditions := others }.toStatement.sql := by
  -- Which columns need their tables in front is settled by the columns, not by the conditions.
  have clause : { selection with conditions }.whereClause =
      { selection with conditions := others }.whereClause := by
    simp only [whereClause, condition, Condition.all, Condition.renderAlone, same]
    rfl
  simp only [toStatement, clause]
  rfl

/-- Putting a name at its place adds nothing but that name. -/
theorem eq_or_mem_of_mem_insertName {name other : String} {names : List String}
    (member : other ∈ insertName name names) : other = name ∨ other ∈ names := by
  induction names with
  | nil => exact .inl (List.mem_singleton.mp member)
  | cons first rest ih =>
    rw [insertName] at member
    -- The name comes in front, is there already, or finds its place behind the first one.
    split at member
    · exact List.mem_cons.mp member
    · split at member
      · exact .inr member
      · rcases List.mem_cons.mp member with rfl | later
        · exact .inr List.mem_cons_self
        · exact (ih later).imp id (List.mem_cons_of_mem first)

/-- Only tables of selected columns are selected from. -/
theorem exists_column_of_mem_tables {selection : Selection} {table : String}
    (member : table ∈ selection.tables) : ∃ column ∈ selection.columns, column.table = table := by
  rw [tables] at member
  -- The tables are gathered from the last column to the first.
  generalize selection.columns = columns at member
  induction columns with
  | nil => exact absurd member List.not_mem_nil
  | cons column rest ih =>
    rw [List.foldr_cons] at member
    rcases eq_or_mem_of_mem_insertName member with rfl | later
    · exact ⟨column, List.mem_cons_self, rfl⟩
    · obtain ⟨other, found, same⟩ := ih later
      exact ⟨other, List.mem_cons_of_mem column found, same⟩

end Selection

namespace Insertion

/-- The text of an insertion with the given text shown for every value of its row. -/
def sqlWith (insertion : Insertion) (row : NewRow) (shown : Nat → Value → String) : String :=
  "INSERT INTO " ++ insertion.table ++ " (" ++ ", ".intercalate row.columns ++ ") VALUES (" ++
    ", ".intercalate (row.values.mapIdx shown) ++ ")"

/-- The text of an insertion in front of its values. -/
def front (insertion : Insertion) (row : NewRow) : String :=
  "INSERT INTO " ++ insertion.table ++ " (" ++ ", ".intercalate row.columns ++ ") VALUES ("

/-- An insertion's text is made of three parts, of which only the list between shows values. -/
theorem toList_sqlWith (insertion : Insertion) (row : NewRow) (shown : Nat → Value → String) :
    (insertion.sqlWith row shown).toList =
      (insertion.front row).toList ++ (", ".intercalate (row.values.mapIdx shown)).toList ++
        ")".toList := by
  delta sqlWith front
  simp only [String.toList_append]

/-- With question marks at its places an insertion is sent, if its row is well formed. -/
theorem sqlWith_questionMark {insertion : Insertion} {row : NewRow}
    (aligned : row.values.length = row.columns.length) :
    insertion.sqlWith row Condition.questionMark = (insertion.toStatement row).sql := by
  -- An insertion shows as many question marks as it has values, and is sent with one for each
  -- column.
  have places : row.values.mapIdx Condition.questionMark =
      List.replicate row.columns.length "?" := by
    rw [← aligned]
    exact List.eq_replicate_iff.mpr ⟨by simp, by simp [Condition.questionMark]⟩
  delta sqlWith toStatement
  rw [places]

/-- An insertion's text depends on what is shown for the values of its row, and on nothing else. -/
theorem sqlWith_congr {insertion : Insertion} {row : NewRow} {shown other : Nat → Value → String}
    (same : ∀ place value, row.values[place]? = some value →
      shown place value = other place value) :
    insertion.sqlWith row shown = insertion.sqlWith row other := by
  have texts : row.values.mapIdx shown = row.values.mapIdx other := by
    -- What is shown at a place is what is shown for the value there, if there is one.
    refine List.ext_getElem? fun place => ?_
    rw [List.getElem?_mapIdx, List.getElem?_mapIdx]
    cases found : row.values[place]? with
    | none => rfl
    | some value => rw [Option.map_some, Option.map_some, same place value found]
  delta sqlWith
  rw [texts]

end Insertion

variable {σ : Type} {rewriter : Rewriter σ} {state : Nat → σ} {text : Nat → String}

/-- A column's name is kept with or without its table, if both names are kept. -/
theorem Column.keeps_render (replaces : rewriter.ReplacesPlaces state text) {column : Column}
    (keptTable : rewriter.Keeps state column.table.toList)
    (keptName : rewriter.Keeps state column.name.toList) (qualified : Bool) :
    rewriter.Keeps state (column.render qualified).toList := by
  -- The point between the two names is plain.
  cases qualified with
  | false => exact keptName
  | true =>
    rw [Column.render, if_pos rfl, String.toList_append, String.toList_append]
    exact (keptTable.append (replaces.keeps (by decide))).append keptName

namespace Selection

/-- A rewriter keeps a selection in front of its condition, if it keeps the names. -/
theorem keeps_front (replaces : rewriter.ReplacesPlaces state text) {selection : Selection}
    (kept : ∀ column ∈ selection.namedColumns,
      rewriter.Keeps state column.table.toList ∧ rewriter.Keeps state column.name.toList) :
    rewriter.Keeps state selection.front.toList := by
  -- It is made of keywords and of lists of names.
  have select : rewriter.Keeps state "SELECT ".toList := replaces.keeps (by decide)
  have source : rewriter.Keeps state " FROM ".toList := replaces.keeps (by decide)
  have comma : rewriter.Keeps state ", ".toList := replaces.keeps (by decide)
  have columns : rewriter.Keeps state selection.columnList.toList := by
    refine comma.intercalate fun name member => ?_
    obtain ⟨column, selected, rfl⟩ := List.mem_map.mp member
    obtain ⟨keptTable, keptName⟩ := kept column (by simp [namedColumns, selected])
    exact column.keeps_render replaces keptTable keptName selection.isQualified
  have tables : rewriter.Keeps state (", ".intercalate selection.tables).toList := by
    refine comma.intercalate fun name member => ?_
    obtain ⟨column, selected, rfl⟩ := exists_column_of_mem_tables member
    exact (kept column (by simp [namedColumns, selected])).1
  delta front
  simp only [String.toList_append]
  exact ((select.append columns).append source).append tables

/-- A rewriter keeps the order of rows, if it keeps the names of a selection. -/
theorem keeps_orderClause (replaces : rewriter.ReplacesPlaces state text) {selection : Selection}
    (kept : ∀ column ∈ selection.namedColumns,
      rewriter.Keeps state column.table.toList ∧ rewriter.Keeps state column.name.toList) :
    rewriter.Keeps state selection.orderClause.toList := by
  rw [orderClause]
  split
  · exact .nil
  · have keyword : rewriter.Keeps state " ORDER BY ".toList := replaces.keeps (by decide)
    have comma : rewriter.Keeps state ", ".toList := replaces.keeps (by decide)
    rw [String.toList_append]
    refine keyword.append (comma.intercalate fun name member => ?_)
    obtain ⟨term, ordered, rfl⟩ := List.mem_map.mp member
    -- Every term is a column and a direction.
    have named : term.column ∈ selection.namedColumns :=
      List.mem_append_right _ (List.mem_map_of_mem ordered)
    have column := term.column.keeps_render replaces (kept _ named).1 (kept _ named).2
      selection.isQualified
    have blank : rewriter.Keeps state " ".toList := replaces.keeps (by decide)
    have direction : rewriter.Keeps state term.direction.sql.toList :=
      replaces.keeps (by cases term.direction <;> decide)
    rw [OrderTerm.render, String.toList_append, String.toList_append]
    exact (column.append blank).append direction

/-- A rewriter keeps the names among the symbols of a selection, if it keeps the names of all
columns. -/
theorem keeps_of_name_mem_symbols (replaces : rewriter.ReplacesPlaces state text)
    {selection : Selection}
    (kept : ∀ column ∈ selection.namedColumns,
      rewriter.Keeps state column.table.toList ∧ rewriter.Keeps state column.name.toList)
    {name : String} (member : .name name ∈ selection.symbols) :
    rewriter.Keeps state name.toList := by
  rw [← Symbol.mem_names, symbols, Condition.names_joinedSymbols] at member
  -- The names among the symbols are those of compared columns.
  obtain ⟨column, compared, rfl⟩ := List.mem_map.mp member
  obtain ⟨keptTable, keptName⟩ := kept column (by simp [namedColumns, compared])
  exact column.keeps_render replaces keptTable keptName selection.isQualified

/-- A rewriter that keeps the names of a selection puts its texts at the places of the condition. -/
theorem writes_whereClause (replaces : rewriter.ReplacesPlaces state text) {selection : Selection}
    (kept : ∀ column ∈ selection.namedColumns,
      rewriter.Keeps state column.table.toList ∧ rewriter.Keeps state column.name.toList) :
    rewriter.Writes (state 0) (selection.whereClauseWith Condition.questionMark).toList
      (selection.whereClauseWith fun place _ => text place).toList
      (state selection.toStatement.binds.length) := by
  rw [toList_whereClauseWith, toList_whereClauseWith, ← values_symbols]
  by_cases nothing : selection.symbols = []
  · rw [if_pos nothing, if_pos nothing, nothing]
    exact .nil _
  · rw [if_neg nothing, if_neg nothing]
    -- Only the symbols behind the keyword have places.
    have keyword : rewriter.Keeps state " WHERE ".toList := replaces.keeps (by decide)
    have spelled := replaces.writes_spell
      (fun name member => keeps_of_name_mem_symbols replaces kept member) 0
    simpa using (keyword 0).append spelled

/-- A rewriter that keeps the names of a selection puts its texts at the places of the values. -/
theorem writes_sql (replaces : rewriter.ReplacesPlaces state text) {selection : Selection}
    (kept : ∀ column ∈ selection.namedColumns,
      rewriter.Keeps state column.table.toList ∧ rewriter.Keeps state column.name.toList) :
    rewriter.Writes (state 0) selection.toStatement.sql.toList
      (selection.sqlWith fun place _ => text place).toList
      (state selection.toStatement.binds.length) := by
  have condition := writes_whereClause replaces kept
  -- The state moves on with the places of the condition, and the rest of the text keeps it.
  rw [← sqlWith_questionMark, toList_sqlWith, toList_sqlWith]
  exact ((keeps_front replaces kept 0).append condition).append (keeps_orderClause replaces kept _)

end Selection

namespace Insertion

/-- What is shown for the first of several values is set apart from what is shown for the rest. -/
theorem intercalate_mapIdx_cons (shown : Nat → Value → String) (value : Value)
    {rest : List Value} (some : rest ≠ []) :
    ", ".intercalate ((value :: rest).mapIdx shown) =
      shown 0 value ++ ", " ++ ", ".intercalate (rest.mapIdx fun place => shown (place + 1)) := by
  rw [List.mapIdx_cons, String.intercalate_cons_of_ne_nil (by simpa using some)]

/-- A rewriter puts its texts at the places of a separated list. -/
theorem writes_places (replaces : rewriter.ReplacesPlaces state text) (values : List Value)
    (position : Nat) :
    rewriter.Writes (state position)
      (", ".intercalate (values.mapIdx Condition.questionMark)).toList
      (", ".intercalate (values.mapIdx fun place _ => text (position + place))).toList
      (state (position + values.length)) := by
  -- The induction is on the values, and the position moves on with each of them.
  induction values generalizing position with
  | nil => exact .nil _
  | cons value rest ih =>
    have first : rewriter.Writes (state position) "?".toList (text position).toList
        (state (position + 1)) := replaces.atPlace position
    cases rest with
    | nil => simpa [Condition.questionMark] using first
    | cons other rest =>
      have comma : rewriter.Keeps state ", ".toList := replaces.keeps (by decide)
      have both := (first.append (comma (position + 1))).append (ih (position + 1))
      -- The texts of the rest are counted from the next position.
      have shifted : (fun place (_ : Value) => text (position + (place + 1))) =
          fun place _ => text (position + 1 + place) := by
        funext place _
        rw [Nat.add_assoc, Nat.add_comm 1]
      have length : position + (value :: other :: rest).length =
          position + 1 + (other :: rest).length := by
        simp only [List.length_cons]
        omega
      rw [intercalate_mapIdx_cons _ _ (List.cons_ne_nil _ _),
        intercalate_mapIdx_cons _ _ (List.cons_ne_nil _ _), shifted, length, String.toList_append,
        String.toList_append, String.toList_append, String.toList_append]
      exact both

/-- A rewriter keeps an insertion in front of its values, if it keeps the names. -/
theorem keeps_front (replaces : rewriter.ReplacesPlaces state text) {insertion : Insertion}
    {row : NewRow} (table : rewriter.Keeps state insertion.table.toList)
    (columns : ∀ column ∈ row.columns, rewriter.Keeps state column.toList) :
    rewriter.Keeps state (insertion.front row).toList := by
  -- Between the names there is only plain text, which any such rewriter keeps.
  have insert : rewriter.Keeps state "INSERT INTO ".toList := replaces.keeps (by decide)
  have opening : rewriter.Keeps state " (".toList := replaces.keeps (by decide)
  have comma : rewriter.Keeps state ", ".toList := replaces.keeps (by decide)
  have between : rewriter.Keeps state ") VALUES (".toList := replaces.keeps (by decide)
  delta front
  simp only [String.toList_append]
  exact (((insert.append table).append opening).append (comma.intercalate columns)).append between

/-- A rewriter that keeps the names of an insertion puts its texts at the places of its values. -/
theorem writes_sql (replaces : rewriter.ReplacesPlaces state text) {insertion : Insertion}
    {row : NewRow} (aligned : row.values.length = row.columns.length)
    (table : rewriter.Keeps state insertion.table.toList)
    (columns : ∀ column ∈ row.columns, rewriter.Keeps state column.toList) :
    rewriter.Writes (state 0) (insertion.toStatement row).sql.toList
      (insertion.sqlWith row fun place _ => text place).toList (state row.values.length) := by
  have places := writes_places replaces row.values 0
  simp only [Nat.zero_add] at places
  -- In front there are names, then the values, and the parenthesis behind them.
  have closing : rewriter.Keeps state ")".toList := replaces.keeps (by decide)
  rw [← sqlWith_questionMark aligned, toList_sqlWith, toList_sqlWith]
  exact ((keeps_front replaces table columns 0).append places).append (closing _)

end Insertion

end RowQuery
