import RowQuery.Proofs.Condition.Meaning

/-!
Groups without a comparison. They say nothing wherever they stand: conditions and selections with
and without them have the same text, the same values and as many placeholders.
-/

namespace RowQuery

namespace Condition

mutual

/-- A condition is empty exactly if there is no comparison in it. -/
theorem isEmpty_iff (condition : Condition) :
    condition.isEmpty = true ↔ condition.predicates = [] := by
  -- A comparison is never empty, and a group is what its members are together.
  cases condition with
  | value column comparison bound => simp [isEmpty, predicates]
  | columns left comparison right => simp [isEmpty, predicates]
  | group connective members =>
    rw [isEmpty, predicates]
    exact allEmpty_iff members

/-- Conditions are all empty exactly if there is no comparison in any of them. -/
theorem allEmpty_iff (conditions : List Condition) :
    allEmpty conditions = true ↔ predicatesOfAll conditions = [] := by
  -- The comparisons of the first condition stand in front of those of the rest.
  cases conditions with
  | nil => simp [allEmpty, predicatesOfAll]
  | cons condition rest =>
    rw [allEmpty, predicatesOfAll, Bool.and_eq_true, List.append_eq_nil_iff]
    exact and_congr (isEmpty_iff condition) (allEmpty_iff rest)

end

/-- An empty condition says nothing inside another one. -/
theorem render_of_isEmpty {condition : Condition} (empty : condition.isEmpty = true)
    (qualified : Bool) : condition.render qualified = "" :=
  (render_eq_empty_iff qualified condition).mpr (condition.isEmpty_iff.mp empty)

mutual

/-- An empty condition binds no value. -/
theorem binds_of_isEmpty (condition : Condition) (empty : condition.isEmpty = true) :
    condition.binds = [] := by
  -- A comparison of columns binds nothing either, but it is not empty.
  cases condition with
  | value column comparison bound => simp [isEmpty] at empty
  | columns left comparison right => simp [isEmpty] at empty
  | group connective members =>
    rw [isEmpty] at empty
    rw [binds]
    exact bindsOfAll_of_allEmpty members empty

/-- Empty conditions bind no value. -/
theorem bindsOfAll_of_allEmpty (conditions : List Condition)
    (empty : allEmpty conditions = true) : bindsOfAll conditions = [] := by
  cases conditions with
  | nil => rw [bindsOfAll]
  | cons condition rest =>
    rw [allEmpty, Bool.and_eq_true] at empty
    rw [bindsOfAll, binds_of_isEmpty condition empty.1, bindsOfAll_of_allEmpty rest empty.2,
      List.append_nil]

end

/-- The right conditions are the left ones without some of the empty groups among them, wherever
they stand. -/
inductive Thins : List Condition → List Condition → Prop where
  | nil : Thins [] []
  /-- A condition is kept as it is. -/
  | keep (condition : Condition) {fuller thinner : List Condition} :
    Thins fuller thinner → Thins (condition :: fuller) (condition :: thinner)
  /-- A group is kept without some of the empty groups in it. -/
  | within (connective : Connective) {members others fuller thinner : List Condition} :
    Thins members others → Thins fuller thinner →
      Thins (.group connective members :: fuller) (.group connective others :: thinner)
  /-- An empty group is left out. -/
  | drop {condition : Condition} {fuller thinner : List Condition} :
    condition.isEmpty = true → Thins fuller thinner → Thins (condition :: fuller) thinner

namespace Thins

variable {fuller thinner : List Condition}

/-- Empty groups add nothing to the texts that are joined. -/
theorem renderMembers_eq (thins : Thins fuller thinner) (qualified : Bool) :
    renderMembers qualified fuller = renderMembers qualified thinner := by
  induction thins with
  | nil => rfl
  | keep condition _ ih => rw [renderMembers, renderMembers, ih]
  | within connective _ _ inner ih =>
    -- The text of a group is made of those of its members alone.
    rw [renderMembers, renderMembers, render, render, inner, ih]
  | drop empty _ ih =>
    -- A member without a text is passed over, and no connective is written for it.
    rw [renderMembers, render_of_isEmpty empty, if_pos rfl, ih]

/-- Empty groups add no value. -/
theorem bindsOfAll_eq (thins : Thins fuller thinner) : bindsOfAll fuller = bindsOfAll thinner := by
  -- The induction is on what is left out; only an empty group is dropped, and it binds nothing.
  induction thins with
  | nil => rfl
  | keep condition _ ih => rw [bindsOfAll, bindsOfAll, ih]
  | within connective _ _ inner ih =>
    rw [bindsOfAll, bindsOfAll, binds, binds, inner, ih]
  | drop empty _ ih =>
    rw [bindsOfAll, binds_of_isEmpty _ empty, List.nil_append, ih]

end Thins

/-- Conditions are all empty exactly if each of them is. -/
theorem allEmpty_iff_forall {conditions : List Condition} :
    allEmpty conditions = true ↔ ∀ condition ∈ conditions, condition.isEmpty = true := by
  induction conditions with
  | nil => simp [allEmpty]
  | cons condition rest ih => rw [allEmpty, Bool.and_eq_true, ih, List.forall_mem_cons]

end Condition

namespace Selection

open Condition

/-- The conjunction of a selection's conditions says nothing exactly if they are all empty. -/
theorem renderAlone_condition_eq_empty_iff (selection : Selection) (qualified : Bool) :
    selection.condition.renderAlone qualified = "" ↔
      ∀ condition ∈ selection.conditions, condition.isEmpty = true := by
  rw [renderAlone_eq_empty_iff, condition, Condition.all, predicates, ← allEmpty_iff,
    allEmpty_iff_forall]

/-- Selections whose conditions differ by empty groups alone are sent as the same statement. -/
theorem toStatement_of_thins (selection : Selection) {fuller thinner : List Condition}
    (thins : Thins fuller thinner) :
    { selection with conditions := fuller }.toStatement =
      { selection with conditions := thinner }.toStatement := by
  -- The conditions of a selection are the members of a conjunction.
  have text := selection.sql_congr_conditions thins.renderMembers_eq
  have values : bindsOfAll fuller = bindsOfAll thinner := thins.bindsOfAll_eq
  exact congrArg₂ Statement.mk text values

end Selection

open Condition

/-- Groups without a comparison are invisible. A condition is empty exactly if it says nothing,
inside another one or alone, and then it binds nothing. Below the root of a condition and among the
conditions of a selection, empty groups can be left out or put in anywhere: every text, the values
and the number of placeholders stay the same. The text of a selection has a condition exactly if one
of its conditions is not empty. -/
theorem empty_groups_are_invisible {fuller thinner : List Condition}
    (thins : Thins fuller thinner) :
    (∀ (condition : Condition) (qualified : Bool),
      (condition.isEmpty = true ↔ condition.render qualified = "") ∧
      (condition.isEmpty = true ↔ condition.renderAlone qualified = "") ∧
      (condition.isEmpty = true → condition.binds = [] ∧ condition.placeholders = 0)) ∧
    (∀ connective : Connective,
      let full := Condition.group connective fuller
      let thin := Condition.group connective thinner
      (∀ qualified, full.render qualified = thin.render qualified ∧
        full.renderAlone qualified = thin.renderAlone qualified) ∧
      full.binds = thin.binds ∧ full.placeholders = thin.placeholders) ∧
    ∀ selection : Selection,
      { selection with conditions := fuller }.toStatement =
        { selection with conditions := thinner }.toStatement ∧
      selection.toStatement.sql =
        "SELECT " ++ selection.columnList ++ " FROM " ++ ", ".intercalate selection.tables ++
          (if ∀ condition ∈ selection.conditions, condition.isEmpty = true then ""
            else " WHERE " ++ selection.condition.renderAlone selection.isQualified) ++
          selection.orderClause ∧
      ((∃ condition ∈ selection.conditions, condition.isEmpty = false) ↔
        selection.condition.renderAlone selection.isQualified ≠ "") := by
  refine ⟨?_, ?_, ?_⟩
  · intro condition qualified
    refine ⟨?_, ?_, fun empty => ⟨?_, ?_⟩⟩
    · rw [condition.isEmpty_iff, render_eq_empty_iff]
    · rw [condition.isEmpty_iff, renderAlone_eq_empty_iff]
    · exact binds_of_isEmpty condition empty
    · rw [placeholders_eq_length, binds_of_isEmpty condition empty, List.length_nil]
  · intro connective full thin
    have values : full.binds = thin.binds := by
      rw [binds, binds, thins.bindsOfAll_eq]
    refine ⟨fun qualified => ⟨?_, ?_⟩, values, ?_⟩
    · rw [render, render, thins.renderMembers_eq]
    · rw [renderAlone, renderAlone, thins.renderMembers_eq]
    · rw [placeholders_eq_length, placeholders_eq_length, values]
  · intro selection
    refine ⟨selection.toStatement_of_thins thins, ?_, ?_⟩
    · -- The clause is decided by its text, which is empty exactly if all conditions are.
      simp only [Selection.toStatement, Selection.whereClause,
        selection.renderAlone_condition_eq_empty_iff]
    · rw [Ne, selection.renderAlone_condition_eq_empty_iff]
      simp

/-- A disjunction keeps its text without the two groups around it that have no comparison, one of
them nested in another, and an empty condition beside it does not matter. -/
theorem empty_groups_are_invisible_around_comparison :
    let adult := Condition.value ⟨"users", "age"⟩ .greaterOrEqual (.int 18)
    let fuller := [.any [.all [], adult, .all [.any []]], .all [.any [], .all []]]
    let thinner := [Condition.any [adult]]
    Thins fuller thinner ∧
      (Condition.all fuller).render true = (Condition.all thinner).render true ∧
      (Condition.all thinner).renderAlone true = "( users.age >= ? )" := by
  intro adult fuller thinner
  have thins : Thins fuller thinner :=
    -- Two groups go from beside the comparison, and one from beside the disjunction.
    .within .any (.drop (by decide) (.keep adult (.drop (by decide) .nil)))
      (.drop (by decide) .nil)
  exact ⟨thins, ((empty_groups_are_invisible thins).2.1 .all).1 true |>.1, by decide +kernel⟩

end RowQuery
