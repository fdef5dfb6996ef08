import RowQuery.Proofs.Statement.Shown
import RowQuery.Proofs.Value.Equality

/-!
Equality of conditions and of the statements made of them. Equal conditions have the same text and
equal values, so one can stand for another anywhere in a selection; only a NaN keeps a condition or
a statement from being equal to itself.
-/

namespace RowQuery

/-- Rows of values that are equal one by one. -/
abbrev AlikeValues (left right : List Value) : Prop :=
  List.Forall₂ (fun bound other => (bound == other) = true) left right

namespace Condition

mutual

/-- A condition equals itself exactly if every value it binds does. -/
theorem beq_self_iff (condition : Condition) :
    condition.equals condition = true ↔
      ∀ bound ∈ condition.binds, (bound == bound) = true := by
  -- Columns, comparisons and connectives equal themselves; a value need not.
  cases condition with
  | value column comparison bound => simp [equals, binds]
  | columns left comparison right => simp [equals, binds]
  | group connective members =>
    rw [equals, binds, Bool.and_eq_true, equalMembers_self_iff members]
    exact and_iff_right (beq_self_eq_true connective)

/-- Conditions equal themselves one by one exactly if every value they bind does. -/
theorem equalMembers_self_iff (members : List Condition) :
    equalMembers members members = true ↔
      ∀ bound ∈ bindsOfAll members, (bound == bound) = true := by
  cases members with
  | nil => simp [equalMembers, bindsOfAll]
  | cons member rest =>
    rw [equalMembers, bindsOfAll, Bool.and_eq_true, beq_self_iff member,
      equalMembers_self_iff rest, List.forall_mem_append]

end

mutual

/-- Equal conditions have the same text inside another one. -/
theorem render_of_equals (left right : Condition) (same : left.equals right = true)
    (qualified : Bool) : left.render qualified = right.render qualified := by
  cases left with
  | value column comparison bound =>
    cases right with
    | value column' comparison' bound' =>
      -- The bound value has no part in the text.
      simp only [equals, Bool.and_eq_true, beq_iff_eq] at same
      obtain ⟨⟨rfl, rfl⟩, _⟩ := same
      rw [render, render]
    | _ => simp [equals] at same
  | columns first comparison second =>
    cases right with
    | columns first' comparison' second' =>
      simp only [equals, Bool.and_eq_true, beq_iff_eq] at same
      obtain ⟨⟨rfl, rfl⟩, rfl⟩ := same
      rfl
    | _ => simp [equals] at same
  | group connective members =>
    cases right with
    | group connective' members' =>
      simp only [equals, Bool.and_eq_true, beq_iff_eq] at same
      obtain ⟨rfl, inner⟩ := same
      rw [render, render, renderMembers_of_equalMembers members members' inner]
    | _ => simp [equals] at same

/-- Conditions that are equal one by one have the same texts. -/
theorem renderMembers_of_equalMembers (members others : List Condition)
    (same : equalMembers members others = true) (qualified : Bool) :
    renderMembers qualified members = renderMembers qualified others := by
  -- Lists of different lengths are not equal, so both are walked together.
  cases members with
  | nil =>
    cases others with
    | nil => rfl
    | cons other later => simp [equalMembers] at same
  | cons member rest =>
    cases others with
    | nil => simp [equalMembers] at same
    | cons other later =>
      rw [equalMembers, Bool.and_eq_true] at same
      rw [renderMembers, renderMembers, render_of_equals member other same.1,
        renderMembers_of_equalMembers rest later same.2]

end

mutual

/-- Equal conditions bind equal values, one by one. -/
theorem binds_of_equals (left right : Condition) (same : left.equals right = true) :
    AlikeValues left.binds right.binds := by
  -- Conditions of different forms are not equal, so the forms are taken in pairs.
  cases left with
  | value column comparison bound =>
    cases right with
    | value column' comparison' bound' =>
      rw [equals, Bool.and_eq_true] at same
      rw [binds, binds]
      exact .cons same.2 .nil
    | _ => simp [equals] at same
  | columns first comparison second =>
    cases right with
    | columns first' comparison' second' =>
      rw [binds, binds]
      exact .nil
    | _ => simp [equals] at same
  | group connective members =>
    cases right with
    | group connective' members' =>
      rw [equals, Bool.and_eq_true] at same
      rw [binds, binds]
      exact bindsOfAll_of_equalMembers members members' same.2
    | _ => simp [equals] at same

/-- Conditions that are equal one by one bind equal values, one by one. -/
theorem bindsOfAll_of_equalMembers (members others : List Condition)
    (same : equalMembers members others = true) :
    AlikeValues (bindsOfAll members) (bindsOfAll others) := by
  -- Lists of different lengths are not equal, so both are walked together.
  cases members with
  | nil =>
    cases others with
    | nil =>
      rw [bindsOfAll]
      exact .nil
    | cons other later => simp [equalMembers] at same
  | cons member rest =>
    cases others with
    | nil => simp [equalMembers] at same
    | cons other later =>
      rw [equalMembers, Bool.and_eq_true] at same
      rw [bindsOfAll, bindsOfAll]
      exact List.rel_append (binds_of_equals member other same.1)
        (bindsOfAll_of_equalMembers rest later same.2)

end

/-- Equal conditions have the same text alone. -/
theorem renderAlone_of_equals {left right : Condition} (same : left.equals right = true)
    (qualified : Bool) : left.renderAlone qualified = right.renderAlone qualified := by
  cases left with
  | group connective members =>
    cases right with
    | group connective' members' =>
      simp only [equals, Bool.and_eq_true, beq_iff_eq] at same
      obtain ⟨rfl, inner⟩ := same
      rw [renderAlone, renderAlone, renderMembers_of_equalMembers members members' inner]
    | _ => simp [equals] at same
  | _ =>
    -- A comparison has the same text alone as inside another condition.
    cases right with
    | group connective' members' => simp [equals] at same
    | _ => exact render_of_equals _ _ same qualified

/-- The conditions on the right are those on the left with another condition in the place of one of
them, or of one anywhere in their groups. -/
inductive Replaces (condition other : Condition) : List Condition → List Condition → Prop where
  | here (rest : List Condition) :
    Replaces condition other (condition :: rest) (other :: rest)
  | later (first : Condition) {before after : List Condition} :
    Replaces condition other before after →
      Replaces condition other (first :: before) (first :: after)
  | within (connective : Connective) (rest : List Condition) {before after : List Condition} :
    Replaces condition other before after →
      Replaces condition other (.group connective before :: rest)
        (.group connective after :: rest)

namespace Replaces

variable {condition other : Condition} {before after : List Condition}

/-- An equal condition in the place of another one leaves the texts as they are. -/
theorem renderMembers_eq (replaces : Replaces condition other before after)
    (same : condition.equals other = true) (qualified : Bool) :
    renderMembers qualified before = renderMembers qualified after := by
  induction replaces with
  | here rest => rw [renderMembers, renderMembers, render_of_equals condition other same]
  | later first _ ih => rw [renderMembers, renderMembers, ih]
  | within connective rest _ ih =>
    -- The connective is the same, and the texts that it joins are.
    rw [renderMembers, renderMembers, render, render, ih]

/-- An equal condition in the place of another one makes equal conditions, if every bound value
equals itself. -/
theorem equalMembers_eq (replaces : Replaces condition other before after)
    (same : condition.equals other = true)
    (reflexive : ∀ bound ∈ bindsOfAll before, (bound == bound) = true) :
    equalMembers before after = true := by
  -- What is not replaced is compared with itself.
  induction replaces with
  | here rest =>
    rw [bindsOfAll, List.forall_mem_append] at reflexive
    rw [equalMembers, same, Bool.true_and]
    exact (equalMembers_self_iff rest).mpr reflexive.2
  | later first _ ih =>
    rw [bindsOfAll, List.forall_mem_append] at reflexive
    rw [equalMembers, first.beq_self_iff.mpr reflexive.1, ih reflexive.2, Bool.true_and]
  | within connective rest _ ih =>
    rw [bindsOfAll, binds, List.forall_mem_append] at reflexive
    rw [equalMembers, equals, beq_self_eq_true, ih reflexive.1, Bool.true_and, Bool.true_and]
    exact (equalMembers_self_iff rest).mpr reflexive.2

end Replaces

end Condition

/-- Statements are equal exactly if their texts are the same and their values equal, one by one. -/
theorem Statement.beq_iff {left right : Statement} :
    (left == right) = true ↔ left.sql = right.sql ∧ AlikeValues left.binds right.binds := by
  change left.equals right = true ↔ _
  rw [equals, Bool.and_eq_true, beq_iff_eq, beq_iff_forall₂]

/-- A statement equals itself exactly if every value it binds does. -/
theorem Statement.beq_self_iff (statement : Statement) :
    (statement == statement) = true ↔ ∀ bound ∈ statement.binds, (bound == bound) = true := by
  rw [beq_iff]
  exact (and_iff_right rfl).trans List.forall₂_same

/-- Values all equal themselves exactly if none of them is a NaN. -/
theorem forall_beq_self_iff {binds : List Value} :
    (∀ bound ∈ binds, (bound == bound) = true) ↔ ∀ bound ∈ binds, bound.isNaN = false :=
  forall₂_congr fun bound _ => bound.beq_self_iff

/-- Values that equal others one by one equal themselves. -/
theorem AlikeValues.beq_self {left right : List Value} (alike : AlikeValues left right) :
    ∀ bound ∈ left, (bound == bound) = true := by
  -- A value that equals another one is not a NaN.
  have each : List.Forall₂ (fun bound other => (bound == bound) = true ∧ (bound == other) = true)
      left right :=
    alike.imp fun bound _ same => ⟨bound.beq_self_iff.mpr (Value.isNaN_of_beq same), same⟩
  exact ((List.forall₂_and_left _ _).mp each).1

section Selections

variable {condition other : Condition} {conditions : List Condition}

/-- An equal condition in the place of another one leaves the text of a selection as it is. -/
theorem Selection.sql_of_replaces (selection : Selection)
    (replaces : Condition.Replaces condition other selection.conditions conditions)
    (same : condition.equals other = true) :
    { selection with conditions }.toStatement.sql = selection.toStatement.sql :=
  selection.sql_congr_conditions fun qualified => (replaces.renderMembers_eq same qualified).symm

/-- An equal condition in the place of another one makes an equal statement exactly if every value
that the selection binds equals itself. -/
theorem Selection.toStatement_beq_iff_of_replaces (selection : Selection)
    (replaces : Condition.Replaces condition other selection.conditions conditions)
    (same : condition.equals other = true) :
    (selection.toStatement == { selection with conditions }.toStatement) = true ↔
      ∀ bound ∈ selection.toStatement.binds, (bound == bound) = true := by
  rw [Statement.beq_iff]
  -- The texts are the same in any case; the values are compared each with its counterpart, and all
  -- but those of the condition itself with themselves.
  constructor
  · rintro ⟨-, alike⟩
    exact alike.beq_self
  · intro reflexive
    have alike : AlikeValues (Condition.bindsOfAll selection.conditions)
        (Condition.bindsOfAll conditions) :=
      Condition.bindsOfAll_of_equalMembers _ _ (replaces.equalMembers_eq same reflexive)
    exact ⟨(selection.sql_of_replaces replaces same).symm, alike⟩

end Selections

/-- Conditions and statements are compared by their values. A condition and the statement of a
selection equal themselves exactly if no value they bind is a NaN. Equal conditions have the same
texts and as many placeholders, and they bind equal values, one by one. If one takes the place of
the other anywhere in a selection, the text stays the same, and so does the statement, up to
equality, exactly if no value it binds is a NaN. -/
theorem conditions_compare_by_values :
    (∀ condition : Condition, (condition == condition) = true ↔
      ∀ bound ∈ condition.binds, bound.isNaN = false) ∧
    (∀ selection : Selection, (selection.toStatement == selection.toStatement) = true ↔
      ∀ bound ∈ selection.toStatement.binds, bound.isNaN = false) ∧
    ∀ condition other : Condition, (condition == other) = true →
      (∀ qualified, condition.render qualified = other.render qualified ∧
        condition.renderAlone qualified = other.renderAlone qualified) ∧
      condition.placeholders = other.placeholders ∧
      AlikeValues condition.binds other.binds ∧
      ∀ (selection : Selection) (conditions : List Condition),
        Condition.Replaces condition other selection.conditions conditions →
        let changed := { selection with conditions }
        changed.toStatement.sql = selection.toStatement.sql ∧
        ((selection.toStatement == changed.toStatement) = true ↔
          ∀ bound ∈ selection.toStatement.binds, bound.isNaN = false) := by
  refine ⟨?_, ?_, ?_⟩
  · intro condition
    rw [← forall_beq_self_iff]
    exact condition.beq_self_iff
  · intro selection
    rw [← forall_beq_self_iff]
    exact selection.toStatement.beq_self_iff
  · intro condition other same
    change condition.equals other = true at same
    have values := Condition.binds_of_equals condition other same
    refine ⟨fun qualified => ⟨Condition.render_of_equals condition other same qualified,
      Condition.renderAlone_of_equals same qualified⟩, ?_, values, ?_⟩
    · -- There is a placeholder for every value.
      rw [Condition.placeholders_eq_length, Condition.placeholders_eq_length, values.length_eq]
    · intro selection conditions replaces changed
      refine ⟨selection.sql_of_replaces replaces same, ?_⟩
      rw [← forall_beq_self_iff]
      exact selection.toStatement_beq_iff_of_replaces replaces same

/-- In a group of a group, positive zero can stand for negative zero: the text and, up to equality,
the statement of the selection stay the same. -/
theorem conditions_compare_by_values_of_zeros :
    let condition : Condition := .value ⟨"t", "x"⟩ .less (.float ⟨0x8000000000000000⟩)
    let other : Condition := .value ⟨"t", "x"⟩ .less (.float ⟨0⟩)
    let beside : Condition := .columns ⟨"t", "y"⟩ .equal ⟨"t", "x"⟩
    let selection : Selection := ⟨[⟨"t", "x"⟩], [beside, .any [.all [beside, condition]]], [], {}⟩
    let changed : Selection := ⟨[⟨"t", "x"⟩], [beside, .any [.all [beside, other]]], [], {}⟩
    (condition == other) = true ∧ (selection.toStatement == changed.toStatement) = true := by
  intro condition other beside selection changed
  -- The zeros compare as equal numbers, and the one that is bound is a number.
  have same : (condition == other) = true := by decide
  have replaces : Condition.Replaces condition other selection.conditions changed.conditions :=
    .later beside (.within .any [] (.within .all [] (.later beside (.here []))))
  have binds : selection.toStatement.binds = [.float ⟨0x8000000000000000⟩] := rfl
  have number : ∀ bound ∈ selection.toStatement.binds, bound.isNaN = false := by
    rw [binds, List.forall_mem_singleton]
    decide
  have replaced :=
    (conditions_compare_by_values.2.2 condition other same).2.2.2 selection _ replaces
  exact ⟨same, replaced.2.mpr number⟩

end RowQuery
