import Mathlib.Data.List.Sort
import RowQuery.Proofs.Statement.Recovery
import RowQuery.Proofs.Text.ByteOrder

/-!
The tables of a selection. They are those of the selected columns, each once and in the order of
their bytes, and all of the text but the list of columns depends on them and not on the order in
which the columns are selected.
-/

namespace RowQuery

open Text

namespace Selection

/-- Names in order stay in order when another one is put at its place. -/
theorem pairwise_insertName {name : String} {names : List String}
    (ordered : names.Pairwise (· < ·)) : (insertName name names).Pairwise (· < ·) := by
  induction names with
  | nil => exact List.pairwise_singleton _ _
  | cons first rest ih =>
    obtain ⟨least, later⟩ := List.pairwise_cons.mp ordered
    rw [insertName]
    split
    · -- In front of the first name it is in front of all of them.
      rename_i less
      refine List.pairwise_cons.mpr ⟨?_, ordered⟩
      intro other member
      rcases List.mem_cons.mp member with rfl | behind
      · exact less
      · exact less.trans (least other behind)
    · rename_i notLess
      split
      · -- The name is there already, and is not put in once more.
        exact ordered
      · rename_i differ
        refine List.pairwise_cons.mpr ⟨?_, ih later⟩
        intro other member
        rcases mem_insertName.mp member with rfl | behind
        · exact lt_of_le_of_ne (not_lt.mp notLess) (Ne.symm differ)
        · exact least other behind

/-- The tables of a selection are in order. -/
theorem pairwise_tables (selection : Selection) : selection.tables.Pairwise (· < ·) := by
  rw [tables]
  -- The tables are gathered from the last column to the first.
  induction selection.columns with
  | nil => exact .nil
  | cons column rest ih => exact pairwise_insertName ih

/-- The tables of a selection are those of its columns. -/
theorem mem_tables_iff {selection : Selection} {table : String} :
    table ∈ selection.tables ↔ ∃ column ∈ selection.columns, column.table = table := by
  constructor
  · exact exists_column_of_mem_tables
  · rintro ⟨column, selected, rfl⟩
    exact mem_tables selected

/-- Selections of columns from the same tables list the tables alike. -/
theorem tables_eq_of_same {left right : Selection}
    (same : ∀ table, (∃ column ∈ left.columns, column.table = table) ↔
      ∃ column ∈ right.columns, column.table = table) : left.tables = right.tables := by
  -- Two lists in the same strict order are equal once they have the same members.
  refine List.Pairwise.eq_of_mem_iff left.pairwise_tables right.pairwise_tables ?_
  intro table
  rw [mem_tables_iff, mem_tables_iff, same]

/-- The list of columns as it stands in a selection from the given tables. -/
def columnListOver (tables : List String) (columns : List Column) : String :=
  ", ".intercalate (columns.map fun column => column.render (1 < tables.length))

/-- What stands behind the list of columns in a selection from the given tables. -/
def textBehindColumns (tables : List String) (conditions : List Condition)
    (order : List OrderTerm) : String :=
  let qualified : Bool := 1 < tables.length
  let condition := (Condition.all conditions).renderAlone qualified
  let terms := order.map fun term => term.render qualified
  " FROM " ++ ", ".intercalate tables ++ (if condition = "" then "" else " WHERE " ++ condition) ++
    (if order = [] then "" else " ORDER BY " ++ ", ".intercalate terms)

/-- The text of a selection is its list of columns and what stands behind that, by its tables. -/
theorem sql_eq (selection : Selection) :
    selection.toStatement.sql =
      "SELECT " ++ columnListOver selection.tables selection.columns ++
        textBehindColumns selection.tables selection.conditions selection.order := by
  simp only [toStatement, columnList, columnListOver, textBehindColumns, whereClause, orderClause,
    String.append_assoc]
  rfl

end Selection

/-- Only the list of columns depends on the order of sources. The tables of a selection are strictly
in the order of their bytes, and they are those of its columns. Two rows of sources from the same
tables, with the same conditions and order of rows, give statements with the same values and the
same text but for the list of columns: the same tables decide for both whether columns are
qualified, in all three places, and each list has the columns of its sources one after the other. -/
theorem only_column_list_follows_sources {sources others : List Source}
    (same : ∀ table, (∃ column ∈ Source.columnsOfAll sources, column.table = table) ↔
      ∃ column ∈ Source.columnsOfAll others, column.table = table) :
    (∀ selection : Selection,
      (selection.tables.Pairwise fun first second => textBytes first < textBytes second) ∧
      ∀ table, table ∈ selection.tables ↔ ∃ column ∈ selection.columns, column.table = table) ∧
    ∀ (conditions : List Condition) (order : List OrderTerm) (options options' : ExecutionOptions),
      let left := (((Selection.ofSources sources).filtered conditions).ordered order).withOptions
        options
      let right := (((Selection.ofSources others).filtered conditions).ordered order).withOptions
        options'
      left.tables = right.tables ∧
      left.toStatement.sql =
        "SELECT " ++ Selection.columnListOver left.tables (Source.columnsOfAll sources) ++
          Selection.textBehindColumns left.tables conditions order ∧
      right.toStatement.sql =
        "SELECT " ++ Selection.columnListOver left.tables (Source.columnsOfAll others) ++
          Selection.textBehindColumns left.tables conditions order ∧
      left.toStatement.binds = (Condition.all conditions).binds ∧
      right.toStatement.binds = (Condition.all conditions).binds := by
  refine ⟨?_, ?_⟩
  · intro selection
    refine ⟨?_, fun table => Selection.mem_tables_iff⟩
    -- Texts are ordered as their bytes are.
    exact selection.pairwise_tables.imp fun less => textBytes_lt_iff.mpr less
  · intro conditions order options options' left right
    have tables : left.tables = right.tables := Selection.tables_eq_of_same same
    refine ⟨tables, left.sql_eq, ?_, rfl, rfl⟩
    -- The other selection has its text by its own tables, and they are the same.
    rw [tables]
    exact right.sql_eq

/-- Columns of two tables, in another order, once more and in groups of groups, are selected from
the same tables and qualified as before. -/
theorem only_column_list_follows_sources_in_groups :
    let id : Column := ⟨"users", "id"⟩
    let owner : Column := ⟨"orders", "user_id"⟩
    let sources : List Source := [.column id, .group [owner]]
    let others : List Source := [.several [.table ⟨"orders", [("user_id", .int64)]⟩,
      .several [.column id, .several []]], .column owner]
    let left := (Selection.ofSources sources).ordered [⟨id, .ascending⟩]
    let right := (Selection.ofSources others).ordered [⟨id, .ascending⟩]
    (∀ table, (∃ column ∈ Source.columnsOfAll sources, column.table = table) ↔
      ∃ column ∈ Source.columnsOfAll others, column.table = table) ∧
    left.tables = right.tables ∧
    left.toStatement.sql =
      "SELECT users.id, orders.user_id FROM orders, users ORDER BY users.id ASC" ∧
    right.toStatement.sql =
      "SELECT orders.user_id, users.id, orders.user_id FROM orders, users" ++
        " ORDER BY users.id ASC" := by
  intro id owner sources others left right
  -- Both come down to lists of the same two columns.
  have same : ∀ table, (∃ column ∈ Source.columnsOfAll sources, column.table = table) ↔
      ∃ column ∈ Source.columnsOfAll others, column.table = table := by
    intro table
    have columns : Source.columnsOfAll sources = [id, owner] := rfl
    have columnsOther : Source.columnsOfAll others = [owner, id, owner] := rfl
    rw [columns, columnsOther]
    grind
  have texts := (only_column_list_follows_sources same).2 [] [⟨id, .ascending⟩] {} {}
  exact ⟨same, texts.1, by decide +kernel, by decide +kernel⟩

end RowQuery
