import RowQuery.Proofs.Condition.Essence
import RowQuery.Proofs.Condition.Spelling
import RowQuery.Proofs.Statement.Shown

/-!
Selections are recovered from their statements. The text shows whether columns stand behind their
tables, and it is told apart part by part: the selected columns, their tables, the condition and the
order of rows. Only what conditions leave out of their symbols is lost.
-/

namespace RowQuery

/-- A name of letters, digits and underscores. -/
def IsPlainName (name : String) : Prop :=
  name.toList ≠ [] ∧ ∀ char ∈ name.toList, isIdentifierChar char = true

namespace Column

/-- A column with plain names for its table and itself. -/
def HasPlainNames (column : Column) : Prop :=
  IsPlainName column.table ∧ IsPlainName column.name

/-- A column with plain names is rendered as a word. -/
theorem HasPlainNames.isWord_render {column : Column} (plain : column.HasPlainNames)
    (qualified : Bool) : IsWord (column.render qualified).toList := by
  obtain ⟨⟨_, table⟩, some, name⟩ := plain
  have word : ∀ char, isIdentifierChar char = true → isWordChar char = true :=
    fun char identifier => by rw [isWordChar, identifier, Bool.true_or]
  cases qualified with
  | false => exact ⟨some, fun char member => word char (name char member)⟩
  | true =>
    have text : (column.render true).toList = column.table.toList ++ '.' :: column.name.toList := by
      simp [render]
    rw [text]
    refine ⟨by simp, fun char member => ?_⟩
    -- A character is one of the table's or the column's, or it is the point between them.
    rcases List.mem_append.mp member with ofTable | ofName
    · exact word char (table char ofTable)
    · rcases List.mem_cons.mp ofName with rfl | ofName
      · decide
      · exact word char (name char ofName)

/-- There is a point in the text of a column exactly if it stands behind its table. -/
theorem HasPlainNames.mem_render_iff {column : Column} (plain : column.HasPlainNames)
    {qualified : Bool} : '.' ∈ (column.render qualified).toList ↔ qualified = true := by
  cases qualified with
  | true => simp [render]
  | false =>
    -- A plain name has no point in it.
    simp only [render, Bool.false_eq_true, if_false, iff_false]
    intro point
    exact absurd (plain.2.2 '.' point) (by decide)

/-- Columns behind their tables are told apart by their texts. -/
theorem HasPlainNames.eq_of_render {left right : Column} (plain : left.HasPlainNames)
    (plainOther : right.HasPlainNames) (same : left.render true = right.render true) :
    left = right := by
  have texts : left.table.toList ++ '.' :: left.name.toList =
      right.table.toList ++ '.' :: right.name.toList := by
    simpa [render] using congrArg String.toList same
  -- The table ends at the point.
  have point : ∀ text : List Char, ∀ first ∈ ('.' :: text).head?,
      isIdentifierChar first = false := by
    intro text first found
    rw [← Option.some.inj found]
    decide
  obtain ⟨tables, behind⟩ :=
    append_inj_of_boundary plain.1.2 plainOther.1.2 (point _) (point _) texts
  have sameTable : left.table = right.table := String.toList_inj.mp tables
  have sameName : left.name = right.name := String.toList_inj.mp (List.cons.inj behind).2
  cases left
  cases right
  simp_all

end Column

/-- Texts that are told apart in front of whatever may follow them. -/
def ToldApart (Follows : List Char → Prop) (texts others : List String) : Prop :=
  ∀ text ∈ texts, ∀ other ∈ others, ∀ rest behind, Follows rest → Follows behind →
    text.toList ++ rest = other.toList ++ behind → text = other ∧ rest = behind

/-- Separated lists are told apart, if their texts are and no separator follows them. -/
theorem eq_of_intercalate_append {Follows : List Char → Prop} {texts others : List String}
    (comma : ∀ text, Follows (", ".toList ++ text)) (apart : ToldApart Follows texts others)
    (some : texts ≠ []) (someOther : others ≠ []) {rest behind : List Char}
    (follows : Follows rest) (followsOther : Follows behind)
    (ended : ¬ ", ".toList <+: rest) (endedOther : ¬ ", ".toList <+: behind)
    (same : (", ".intercalate texts).toList ++ rest = (", ".intercalate others).toList ++ behind) :
    texts = others ∧ rest = behind := by
  -- Both lists are read from the left, and they end where no separator follows a text.
  induction texts generalizing others with
  | nil => contradiction
  | cons text texts ih =>
    cases others with
    | nil => contradiction
    | cons other others =>
      have first := apart text List.mem_cons_self other List.mem_cons_self
      by_cases last : texts = []
      · subst last
        by_cases lastOther : others = []
        · subst lastOther
          rw [String.intercalate_singleton, String.intercalate_singleton] at same
          obtain ⟨rfl, sameRest⟩ := first rest behind follows followsOther same
          exact ⟨rfl, sameRest⟩
        · rw [String.intercalate_singleton, String.intercalate_cons_of_ne_nil lastOther,
            String.toList_append, String.toList_append, List.append_assoc,
            List.append_assoc] at same
          obtain ⟨_, separated⟩ := first _ _ follows (comma _) same
          exact absurd (separated ▸ List.prefix_append _ _) ended
      · rw [String.intercalate_cons_of_ne_nil last, String.toList_append, String.toList_append,
          List.append_assoc, List.append_assoc] at same
        by_cases lastOther : others = []
        · subst lastOther
          rw [String.intercalate_singleton] at same
          obtain ⟨_, separated⟩ := first _ _ (comma _) followsOther same
          exact absurd (separated ▸ List.prefix_append _ _) endedOther
        · rw [String.intercalate_cons_of_ne_nil lastOther, String.toList_append,
            String.toList_append, List.append_assoc, List.append_assoc] at same
          obtain ⟨rfl, separated⟩ := first _ _ (comma _) (comma _) same
          have later : ToldApart Follows texts others := fun text' member other' memberOther =>
            apart text' (List.mem_cons_of_mem _ member) other' (List.mem_cons_of_mem _ memberOther)
          obtain ⟨rfl, sameRest⟩ := ih later last lastOther (List.append_cancel_left separated)
          exact ⟨rfl, sameRest⟩

/-- Lists are told apart by the images of their members, if these are. -/
theorem eq_of_map_eq {α β : Type} {image : α → β} {items others : List α}
    (apart : ∀ item ∈ items, ∀ other ∈ others, image item = image other → item = other)
    (same : items.map image = others.map image) : items = others := by
  -- Lists with the same images are equally long, and are walked together.
  induction items generalizing others with
  | nil => exact (List.map_eq_nil_iff.mp same.symm).symm
  | cons item items ih =>
    cases others with
    | nil => simp at same
    | cons other others =>
      rw [List.map_cons, List.map_cons, List.cons.injEq] at same
      have first := apart item List.mem_cons_self other List.mem_cons_self same.1
      have later := ih (fun item' member other' memberOther =>
        apart item' (List.mem_cons_of_mem _ member) other' (List.mem_cons_of_mem _ memberOther))
        same.2
      rw [first, later]

/-- A text that is empty or set apart by a blank. -/
def IsSetApart (text : List Char) : Prop :=
  ∀ first ∈ text.head?, first = ' '

namespace IsSetApart

variable {text : List Char}

/-- Words end at a blank. -/
theorem endsWord (apart : IsSetApart text) : EndsWord text := by
  intro first found
  rw [apart first found]
  decide

/-- A blank is no separator. -/
theorem not_comma (apart : IsSetApart text) : ¬ ", ".toList <+: text := by
  rintro ⟨rest, rfl⟩
  have blank := apart ',' rfl
  contradiction

end IsSetApart

/-- Words are told apart where they end. -/
theorem toldApart_of_isWord {texts others : List String}
    (words : ∀ text ∈ texts, IsWord text.toList)
    (wordsOther : ∀ text ∈ others, IsWord text.toList) :
    ToldApart EndsWord texts others := by
  -- Where both words end, none of them can be a longer beginning of the other.
  intro text member other memberOther rest behind ended endedOther same
  obtain ⟨sameText, sameRest⟩ :=
    (words text member).append_inj (wordsOther other memberOther) ended endedOther same
  exact ⟨String.toList_inj.mp sameText, sameRest⟩

/-- Words in separated lists are told apart in front of blanks. -/
theorem eq_of_separated_words {texts others : List String}
    (words : ∀ text ∈ texts, IsWord text.toList) (wordsOther : ∀ text ∈ others, IsWord text.toList)
    (some : texts ≠ []) (someOther : others ≠ []) {rest behind : List Char}
    (apart : IsSetApart rest) (apartOther : IsSetApart behind)
    (same : (", ".intercalate texts).toList ++ rest = (", ".intercalate others).toList ++ behind) :
    texts = others ∧ rest = behind := by
  -- A word ends in front of a comma, so the separator cannot continue it.
  have comma : ∀ text, EndsWord (", ".toList ++ text) := by
    intro text first found
    rw [← Option.some.inj found]
    decide
  exact eq_of_intercalate_append comma (toldApart_of_isWord words wordsOther) some someOther
    apart.endsWord apartOther.endsWord apart.not_comma apartOther.not_comma same

/-- Terms of an order are told apart, whatever follows them, if their columns are plain. -/
theorem OrderTerm.append_inj {qualified : Bool} {term other : OrderTerm}
    (plain : term.column.HasPlainNames) (plainOther : other.column.HasPlainNames)
    {rest behind : List Char}
    (same : (term.render qualified).toList ++ rest = (other.render qualified).toList ++ behind) :
    term.column.render qualified = other.column.render qualified ∧
      term.direction = other.direction ∧ rest = behind := by
  simp only [render, String.toList_append, List.append_assoc] at same
  -- The column ends at the blank, and the two directions start differently.
  have blank : ∀ text : List Char, EndsWord (" ".toList ++ text) := by
    intro text first found
    rw [← Option.some.inj found]
    decide
  obtain ⟨columns, directions⟩ := (plain.isWord_render qualified).append_inj
    (plainOther.isWord_render qualified) (blank _) (blank _) same
  have behindBlank := List.append_cancel_left directions
  refine ⟨String.toList_inj.mp columns, ?_⟩
  cases first : term.direction <;> cases second : other.direction <;>
    simp_all [Direction.sql]

namespace Selection

/-- A selection of at least one column. All names in it are plain, and it compares columns and
orders by columns only of tables that it selects columns from. -/
structure IsSelfContained (selection : Selection) : Prop where
  columns : selection.columns ≠ []
  plain : ∀ column ∈ selection.namedColumns, column.HasPlainNames
  tables : ∀ column ∈ selection.namedColumns,
    ∃ selected ∈ selection.columns, selected.table = column.table

/-- Putting a name at its place keeps the others. -/
theorem mem_insertName {name other : String} {names : List String} :
    other ∈ insertName name names ↔ other = name ∨ other ∈ names := by
  refine ⟨eq_or_mem_of_mem_insertName, fun member => ?_⟩
  induction names with
  | nil => simpa [insertName] using member
  | cons first rest ih =>
    rw [insertName]
    -- The name comes in front, is there already, or finds its place behind the first one.
    split
    · simpa using member
    · split
      · rename_i same
        rcases member with rfl | member
        · rw [same]
          exact List.mem_cons_self
        · exact member
      · simp only [List.mem_cons] at member ⊢
        rcases member with rfl | rfl | later
        · exact .inr (ih (.inl rfl))
        · exact .inl rfl
        · exact .inr (ih (.inr later))

/-- The table of a selected column is selected from. -/
theorem mem_tables {selection : Selection} {column : Column}
    (selected : column ∈ selection.columns) : column.table ∈ selection.tables := by
  rw [tables]
  -- The tables are gathered from the last column to the first.
  generalize selection.columns = columns at selected
  induction columns with
  | nil => exact absurd selected List.not_mem_nil
  | cons first rest ih =>
    rw [List.foldr_cons, mem_insertName]
    rcases List.mem_cons.mp selected with rfl | later
    · exact .inl rfl
    · exact .inr (ih later)

namespace IsSelfContained

variable {selection other : Selection}

/-- The texts of selected columns are words. -/
theorem isWord_columns (contained : selection.IsSelfContained) :
    ∀ text ∈ selection.columns.map fun column => column.render selection.isQualified,
      IsWord text.toList := by
  intro text member
  obtain ⟨column, selected, rfl⟩ := List.mem_map.mp member
  exact (contained.plain column (by simp [namedColumns, selected])).isWord_render _

/-- The tables are words. -/
theorem isWord_tables (contained : selection.IsSelfContained) :
    ∀ text ∈ selection.tables, IsWord text.toList := by
  intro text member
  -- A table is there because of a column, whose names are plain.
  obtain ⟨column, selected, rfl⟩ := exists_column_of_mem_tables member
  obtain ⟨⟨some, chars⟩, _⟩ := contained.plain column (by simp [namedColumns, selected])
  exact ⟨some, fun char inside => by rw [isWordChar, chars char inside, Bool.true_or]⟩

/-- There is a table to select from. -/
theorem tables_ne_nil (contained : selection.IsSelfContained) : selection.tables ≠ [] := by
  obtain ⟨column, rest, columns⟩ := List.exists_cons_of_ne_nil contained.columns
  have selected : column ∈ selection.columns := by simp [columns]
  exact List.ne_nil_of_mem (mem_tables selected)

/-- The names among the symbols are words. -/
theorem isWord_symbols (contained : selection.IsSelfContained) :
    ∀ name, .name name ∈ selection.symbols → IsWord name.toList := by
  intro name member
  rw [← Symbol.mem_names, symbols, Condition.names_joinedSymbols] at member
  -- A name stands for a compared column, whose names are plain.
  obtain ⟨column, compared, rfl⟩ := List.mem_map.mp member
  exact (contained.plain column (by simp [namedColumns, compared])).isWord_render _

/-- The columns that two selections from the same tables name are told apart by their texts, if the
columns of both stand behind their tables or those of neither do. -/
theorem namesDiffer (contained : selection.IsSelfContained) (containedOther : other.IsSelfContained)
    (tables : selection.tables = other.tables) :
    Condition.NamesDiffer selection.isQualified selection.namedColumns other.namedColumns := by
  intro left named right namedOther same
  have plain := contained.plain left named
  have plainOther := containedOther.plain right namedOther
  cases qualified : selection.isQualified with
  | true =>
    rw [qualified] at same
    exact plain.eq_of_render plainOther same
  | false =>
    rw [qualified] at same
    -- Both columns come from the only table.
    have single : selection.tables.length ≤ 1 := by simpa [isQualified] using qualified
    obtain ⟨selected, member, ofLeft⟩ := contained.tables left named
    obtain ⟨selectedOther, memberOther, ofRight⟩ := containedOther.tables right namedOther
    have inTables : left.table ∈ selection.tables := ofLeft ▸ mem_tables member
    have inTablesOther : right.table ∈ selection.tables := by
      rw [tables, ← ofRight]
      exact mem_tables memberOther
    have sameTable : left.table = right.table := by
      match found : selection.tables with
      | [] => simp [found] at inTables
      | [only] =>
        rw [found, List.mem_singleton] at inTables inTablesOther
        rw [inTables, inTablesOther]
      | _ :: _ :: _ => simp [found] at single
    cases left
    cases right
    simp_all [Column.render]

end IsSelfContained

/-- The order of rows is set apart by a blank. -/
theorem isSetApart_orderClause (selection : Selection) :
    IsSetApart selection.orderClause.toList := by
  intro first found
  rw [orderClause] at found
  -- Without an order there is no first character, and otherwise it is the blank.
  split at found
  · simp at found
  · simpa [eq_comm] using found

/-- Symbols have ended in front of the order of rows. -/
theorem endsSymbols_orderClause (selection : Selection) :
    Symbol.EndsSymbols selection.orderClause.toList := by
  refine ⟨selection.isSetApart_orderClause.endsWord, fun mark member => ?_⟩
  rw [orderClause]
  split
  · -- No mark is empty.
    obtain ⟨first, rest, rfl, _⟩ := Symbol.endsWord_of_mem_marks mark member
    simp
  · -- All marks end or differ within the keyword.
    intro begins
    rw [String.toList_append] at begins
    have within : mark.length ≤ " ORDER BY ".toList.length := by
      have all : ∀ mark ∈ Symbol.marks, mark.length ≤ " ORDER BY ".toList.length := by decide
      exact all mark member
    have none : ∀ mark ∈ Symbol.marks, ¬ mark <+: " ORDER BY ".toList := by decide
    exact none mark member (List.prefix_of_prefix_length_le begins (List.prefix_append _ _) within)

/-- A selection's text, part by part. -/
theorem toList_sql (selection : Selection) :
    selection.toStatement.sql.toList =
      "SELECT ".toList ++ ((", ".intercalate
          (selection.columns.map fun column => column.render selection.isQualified)).toList ++
        (" FROM ".toList ++ ((", ".intercalate selection.tables).toList ++
          ((if selection.symbols = [] then []
            else " WHERE ".toList ++ Symbol.spell Condition.questionMark 0 selection.symbols) ++
            selection.orderClause.toList)))) := by
  rw [← sqlWith_questionMark, toList_sqlWith, toList_whereClauseWith]
  delta front
  simp only [columnList, String.toList_append, List.append_assoc]

/-- A clause, or nothing if it says nothing, is set apart from what comes in front of it. -/
theorem isSetApart_whereClause (selection : Selection) :
    IsSetApart ((if selection.symbols = [] then []
      else " WHERE ".toList ++ Symbol.spell Condition.questionMark 0 selection.symbols) ++
        selection.orderClause.toList) := by
  split
  · exact selection.isSetApart_orderClause
  · intro first found
    simpa [eq_comm] using found

/-- There is no condition in the order of rows. -/
theorem orderClause_ne_where (selection : Selection) (text : List Char) :
    selection.orderClause.toList ≠ " WHERE ".toList ++ text := by
  rw [orderClause]
  -- An order begins with another word, and without one there is no text.
  split
  · simp
  · simp

/-- Equal orders of rows have equal terms, if the columns in them are told apart by their texts. -/
theorem order_eq_of_orderClause {selection other : Selection}
    (contained : selection.IsSelfContained) (containedOther : other.IsSelfContained)
    (mode : selection.isQualified = other.isQualified)
    (apart : Condition.NamesDiffer selection.isQualified selection.namedColumns other.namedColumns)
    (same : selection.orderClause = other.orderClause) : selection.order = other.order := by
  have named : ∀ {selection : Selection}, ∀ term ∈ selection.order,
      term.column ∈ selection.namedColumns :=
    fun term ordered => List.mem_append_right _ (List.mem_map_of_mem ordered)
  have plain := fun term ordered => contained.plain _ (named term ordered)
  have plainOther := fun term ordered => containedOther.plain _ (named term ordered)
  rw [orderClause, orderClause, ← mode] at same
  split at same
  · rename_i none
    split at same
    · rename_i noneOther
      rw [none, noneOther]
    · simp at same
  · rename_i some
    split at same
    · simp at same
    · rename_i someOther
      -- The terms are told apart one by one, and nothing follows the last one.
      have terms : ToldApart (fun _ => True)
          (selection.order.map fun term => term.render selection.isQualified)
          (other.order.map fun term => term.render selection.isQualified) := by
        intro text member text' member' rest behind _ _ texts
        obtain ⟨term, ordered, rfl⟩ := List.mem_map.mp member
        obtain ⟨term', ordered', rfl⟩ := List.mem_map.mp member'
        obtain ⟨columns, directions, sameRest⟩ :=
          OrderTerm.append_inj (plain term ordered) (plainOther term' ordered') texts
        exact ⟨by rw [OrderTerm.render, OrderTerm.render, columns, directions], sameRest⟩
      have lists := congrArg (fun text => text.toList ++ []) (String.append_right_inj _ |>.mp same)
      have sameTexts := (eq_of_intercalate_append (fun _ => trivial) terms (by simpa using some)
        (by simpa using someOther) trivial trivial (by simp) (by simp) lists).1
      refine eq_of_map_eq (fun term ordered term' ordered' texts => ?_) sameTexts
      obtain ⟨columns, directions, _⟩ := OrderTerm.append_inj (plain term ordered)
        (plainOther term' ordered') (congrArg (fun text => text.toList ++ []) texts)
      have sameColumn := apart _ (named term ordered) _ (named term' ordered') columns
      cases term
      cases term'
      simp_all

/-- The parts of a selection that its text is made of. -/
theorem parts_eq_of_toStatement {selection other : Selection}
    (contained : selection.IsSelfContained) (containedOther : other.IsSelfContained)
    (same : selection.toStatement = other.toStatement) :
    (selection.columns.map fun column => column.render selection.isQualified) =
        (other.columns.map fun column => column.render other.isQualified) ∧
      selection.tables = other.tables ∧ selection.symbols = other.symbols ∧
      selection.orderClause = other.orderClause := by
  have texts := congrArg (fun statement => statement.sql.toList) same
  have binds : Symbol.values selection.symbols = Symbol.values other.symbols := by
    rw [values_symbols, values_symbols, same]
  simp only [toList_sql] at texts
  -- The text is read from the left, part by part.
  have keyword : ∀ text, IsSetApart (" FROM ".toList ++ text) := by
    intro text first found
    simpa [eq_comm] using found
  obtain ⟨columns, behindColumns⟩ := eq_of_separated_words contained.isWord_columns
    containedOther.isWord_columns (by simpa using contained.columns)
    (by simpa using containedOther.columns) (keyword _) (keyword _)
    (List.append_cancel_left texts)
  obtain ⟨tables, behindTables⟩ := eq_of_separated_words contained.isWord_tables
    containedOther.isWord_tables contained.tables_ne_nil containedOther.tables_ne_nil
    selection.isSetApart_whereClause other.isSetApart_whereClause
    (List.append_cancel_left behindColumns)
  have behind : selection.symbols = other.symbols ∧
      selection.orderClause.toList = other.orderClause.toList := by
    -- Either both have a condition or neither has.
    by_cases none : selection.symbols = []
    · by_cases noneOther : other.symbols = []
      · rw [if_pos none, if_pos noneOther] at behindTables
        exact ⟨none.trans noneOther.symm, behindTables⟩
      · rw [if_pos none, if_neg noneOther, List.append_assoc] at behindTables
        exact absurd behindTables (selection.orderClause_ne_where _)
    · by_cases noneOther : other.symbols = []
      · rw [if_neg none, if_pos noneOther, List.append_assoc] at behindTables
        exact absurd behindTables.symm (other.orderClause_ne_where _)
      · rw [if_neg none, if_neg noneOther, List.append_assoc, List.append_assoc] at behindTables
        exact Symbol.eq_of_spell_append (Condition.isChain_joinedSymbols _ _ _)
          (Condition.isChain_joinedSymbols _ _ _) contained.isWord_symbols
          containedOther.isWord_symbols selection.endsSymbols_orderClause
          other.endsSymbols_orderClause binds (List.append_cancel_left behindTables)
  exact ⟨columns, tables, behind.1, String.toList_inj.mp behind.2⟩

/-- The text shows whether columns stand behind their tables. -/
theorem isQualified_eq_of_columns {selection other : Selection}
    (contained : selection.IsSelfContained) (containedOther : other.IsSelfContained)
    (same : (selection.columns.map fun column => column.render selection.isQualified) =
      other.columns.map fun column => column.render other.isQualified) :
    selection.isQualified = other.isQualified := by
  obtain ⟨column, rest, columns⟩ := List.exists_cons_of_ne_nil contained.columns
  obtain ⟨first, others, columnsOther⟩ := List.exists_cons_of_ne_nil containedOther.columns
  rw [columns, columnsOther, List.map_cons, List.map_cons, List.cons.injEq] at same
  have plain := contained.plain column (by simp [namedColumns, columns])
  have plainOther := containedOther.plain first (by simp [namedColumns, columnsOther])
  -- The first column has a point in its text, or it has none.
  rw [Bool.eq_iff_iff, ← plain.mem_render_iff, same.1]
  exact plainOther.mem_render_iff

end Selection

/-- Selections are recovered from their statements, as far as these say something: two of them have
the same text and the same bound values exactly if they select the same columns, order by the same
terms, and have the same conditions but for groups without a comparison and for the connective of
groups left with one member. Different columns of a selection have different texts in it. -/
theorem statement_determines_selection {left right : Selection} (contained : left.IsSelfContained)
    (containedOther : right.IsSelfContained) :
    (left.toStatement = right.toStatement ↔
      left.columns = right.columns ∧ left.order = right.order ∧
        Condition.essentialEach left.conditions = Condition.essentialEach right.conditions) ∧
    ∀ column ∈ left.namedColumns, ∀ other ∈ left.namedColumns,
      column.render left.isQualified = other.render left.isQualified → column = other := by
  refine ⟨⟨fun same => ?_, fun parts => ?_⟩, contained.namesDiffer contained rfl⟩
  · obtain ⟨columns, tables, symbols, order⟩ :=
      Selection.parts_eq_of_toStatement contained containedOther same
    have mode := Selection.isQualified_eq_of_columns contained containedOther columns
    have apart := contained.namesDiffer containedOther tables
    refine ⟨?_, Selection.order_eq_of_orderClause contained containedOther mode apart order, ?_⟩
    · rw [← mode] at columns
      refine eq_of_map_eq (fun column selected other selectedOther => ?_) columns
      exact apart column (by simp [Selection.namedColumns, selected]) other
        (by simp [Selection.namedColumns, selectedOther])
    · rw [Selection.symbols, Selection.symbols, ← mode] at symbols
      refine Condition.essentialEach_eq_of_joinedSymbols
        (fun column compared other comparedOther => ?_) symbols
      exact apart column (by simp [Selection.namedColumns, compared]) other
        (by simp [Selection.namedColumns, comparedOther])
  · -- The text and the values are made of nothing else.
    obtain ⟨columns, order, conditions⟩ := parts
    have tables : left.tables = right.tables := by rw [Selection.tables, columns, Selection.tables]
    have mode : left.isQualified = right.isQualified := by
      rw [Selection.isQualified, tables, Selection.isQualified]
    have symbols : left.symbols = right.symbols := by
      rw [Selection.symbols, ← Condition.joinedSymbols_essentialEach, conditions, mode,
        Condition.joinedSymbols_essentialEach, Selection.symbols]
    have orderClause : left.orderClause = right.orderClause := by
      rw [Selection.orderClause, order, mode, Selection.orderClause]
    have sql : left.toStatement.sql = right.toStatement.sql := by
      rw [← String.toList_inj, Selection.toList_sql, Selection.toList_sql, columns, mode, tables,
        symbols, orderClause]
    have binds : left.toStatement.binds = right.toStatement.binds := by
      rw [← Selection.values_symbols, symbols, Selection.values_symbols]
    cases statement : left.toStatement
    cases statementOther : right.toStatement
    simp_all

/-- Two selections of names from one table, by age in a group of one and beside an empty group, have
the same statement. With another direction of their order they do not. -/
theorem statement_determines_selection_of_names :
    let name : Column := ⟨"users", "name"⟩
    let older := Condition.value ⟨"users", "age"⟩ .greater (.int 18)
    let left : Selection := ⟨[name], [.all [older], .any []], [⟨name, .ascending⟩], {}⟩
    let right : Selection := ⟨[name], [.any [.all [], older]], [⟨name, .ascending⟩], {}⟩
    let other : Selection := ⟨[name], [.any [.all [], older]], [⟨name, .descending⟩], {}⟩
    left.IsSelfContained ∧ right.IsSelfContained ∧ other.IsSelfContained ∧
      left.toStatement = right.toStatement ∧ left.toStatement ≠ other.toStatement := by
  intro name older left right other
  -- All three selections name the same columns, so they are looked at together.
  have contained : ∀ selection ∈ [left, right, other], selection.IsSelfContained := by
    intro selection member
    have columns : selection.columns = [name] := by
      simp only [List.mem_cons, List.not_mem_nil, or_false] at member
      rcases member with rfl | rfl | rfl <;> rfl
    have named : ∀ column ∈ selection.namedColumns, column = name ∨ column = ⟨"users", "age"⟩ := by
      simp only [List.mem_cons, List.not_mem_nil, or_false] at member
      rcases member with rfl | rfl | rfl <;> decide
    have word : ∀ text ∈ ["users", "name", "age"], IsPlainName text := by
      have chars : ∀ text ∈ ["users", "name", "age"],
          text.toList ≠ [] ∧ text.toList.all isIdentifierChar = true := by decide
      exact fun text member => (chars text member).imp id List.all_eq_true.mp
    have plain : ∀ column : Column, column = name ∨ column = ⟨"users", "age"⟩ →
        column.HasPlainNames ∧ column.table = "users" := by
      rintro column (rfl | rfl)
      · exact ⟨⟨word "users" (by simp), word "name" (by simp)⟩, rfl⟩
      · exact ⟨⟨word "users" (by simp), word "age" (by simp)⟩, rfl⟩
    exact ⟨by simp [columns], fun column member => (plain column (named column member)).1,
      fun column member => ⟨name, by simp [columns], (plain column (named column member)).2.symm⟩⟩
  have ofLeft := contained left (by simp)
  have ofRight := contained right (by simp)
  have ofOther := contained other (by simp)
  -- The first two have one condition left each, the same; the third has another order.
  refine ⟨ofLeft, ofRight, ofOther, ?_, fun same => ?_⟩
  · exact (statement_determines_selection ofLeft ofRight).1.mpr ⟨rfl, rfl, rfl⟩
  · have orders := ((statement_determines_selection ofLeft ofOther).1.mp same).2.1
    simp [left, other] at orders

end RowQuery
