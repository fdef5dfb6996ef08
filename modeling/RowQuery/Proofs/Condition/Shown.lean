import RowQuery.Proofs.Condition.Symbols

/-!
Conditions with something else than a question mark shown at the places of their values. Such a text
is that of the condition's symbols, and with question marks it is the text that is sent.
-/

namespace RowQuery.Condition

open RowQuery.Symbol

mutual

/-- The condition as it stands inside another one, with the given text shown for every bound value.
The text may depend on the value and on its position among all bound values, depth first. -/
def renderWith (shown : Nat → Value → String) (qualified : Bool) (position : Nat) :
    Condition → String
  | .value column comparison bound =>
    column.render qualified ++ " " ++ comparison.sql ++ " " ++ shown position bound
  | .columns left comparison right =>
    left.render qualified ++ " " ++ comparison.sql ++ " " ++ right.render qualified
  | .group connective members =>
    let joined := (" " ++ connective.sql ++ " ").intercalate
      (renderMembersWith shown qualified position members)
    if joined = "" then "" else "( " ++ joined ++ " )"

/-- The members of a group that say something, with the given texts shown for bound values. -/
def renderMembersWith (shown : Nat → Value → String) (qualified : Bool) (position : Nat) :
    List Condition → List String
  | [] => []
  | member :: rest =>
    let text := renderWith shown qualified position member
    -- The values of a member are counted even if it says nothing, and then there are none.
    let others := renderMembersWith shown qualified (position + member.placeholders) rest
    if text = "" then others else text :: others

end

/-- The condition as it stands alone, with the given text shown for every bound value. -/
def renderAloneWith (shown : Nat → Value → String) (qualified : Bool) (position : Nat) :
    Condition → String
  | .group connective members =>
    (" " ++ connective.sql ++ " ").intercalate
      (renderMembersWith shown qualified position members)
  | comparison => comparison.renderWith shown qualified position

/-- What is shown where a statement is sent: a question mark at every place. -/
def questionMark : Nat → Value → String := fun _ _ => "?"

mutual

/-- With question marks at its places a condition is rendered as it is sent. -/
theorem renderWith_questionMark (qualified : Bool) (position : Nat) (condition : Condition) :
    condition.renderWith questionMark qualified position = condition.render qualified := by
  cases condition with
  | value column comparison bound =>
    -- The blank in front of the place belongs to the operator here and to the question mark there.
    simp only [renderWith, render, questionMark, String.append_assoc]
    rfl
  | columns left comparison right => simp only [renderWith, render]
  | group connective members =>
    simp only [renderWith, render, renderMembersWith_questionMark qualified position members]

/-- With question marks at their places the members of a group are rendered as they are sent. -/
theorem renderMembersWith_questionMark (qualified : Bool) (position : Nat)
    (members : List Condition) :
    renderMembersWith questionMark qualified position members =
      renderMembers qualified members := by
  cases members with
  | nil => simp only [renderMembersWith, renderMembers]
  | cons member rest =>
    simp only [renderMembersWith, renderMembers, renderWith_questionMark qualified position member,
      renderMembersWith_questionMark qualified _ rest]

end

/-- With question marks at its places a condition stands alone as it is sent. -/
theorem renderAloneWith_questionMark (qualified : Bool) (position : Nat) (condition : Condition) :
    condition.renderAloneWith questionMark qualified position =
      condition.renderAlone qualified := by
  -- Only a group stands alone in another way than inside a condition.
  cases condition with
  | value column comparison bound => exact renderWith_questionMark qualified position _
  | columns left comparison right => exact renderWith_questionMark qualified position _
  | group connective members =>
    simp only [renderAloneWith, renderAlone, renderMembersWith_questionMark]

/-- Symbols of a condition that are spelled out as nothing are none. -/
theorem symbols_eq_nil_of_spell {qualified : Bool} {condition : Condition}
    {shown : Nat → Value → String} {position : Nat}
    (nothing : spell shown position (condition.symbols qualified) = []) :
    condition.symbols qualified = [] := by
  -- Symbols come with a comparison, which is never silent.
  by_contra some
  obtain ⟨comparison, member⟩ := exists_comparison_of_symbols qualified condition some
  exact spell_ne_nil member shown position nothing

/-- Symbols of joined conditions that are spelled out as nothing are none. -/
theorem joinedSymbols_eq_nil_of_spell {qualified : Bool} {connective : Connective}
    {members : List Condition} {shown : Nat → Value → String} {position : Nat}
    (nothing : spell shown position (joinedSymbols qualified connective members) = []) :
    joinedSymbols qualified connective members = [] := by
  -- Symbols come with a comparison, which is never silent.
  by_contra some
  obtain ⟨comparison, member⟩ :=
    exists_comparison_of_joinedSymbols qualified connective members some
  exact spell_ne_nil member shown position nothing

/-- A text put in front of a list of texts is set apart by a separator, unless the list is empty. -/
private theorem intercalate_cons (separator text : String) (others : List String) :
    separator.intercalate (text :: others) =
      if others = [] then text else text ++ separator ++ separator.intercalate others := by
  cases others <;> simp

variable (shown : Nat → Value → String) (qualified : Bool)

mutual

/-- A condition is rendered by spelling out its symbols. -/
theorem toList_renderWith (position : Nat) (condition : Condition) :
    (condition.renderWith shown qualified position).toList =
      spell shown position (condition.symbols qualified) := by
  cases condition with
  | value column comparison bound =>
    simp [renderWith, symbols, spell, Symbol.text, bound?]
  | columns left comparison right => simp [renderWith, symbols, spell, Symbol.text]
  | group connective members =>
    have joined := (toList_renderMembersWith position connective members).2
    simp only [renderWith, symbols]
    by_cases nothing : joinedSymbols qualified connective members = []
    · -- Without symbols the members say nothing, and the parentheses are left out on both sides.
      rw [nothing, spell, String.toList_eq_nil_iff] at joined
      simp [joined, nothing, enclose, spell]
    · -- With symbols there is a text, and both sides put it in parentheses.
      have something : (" " ++ connective.sql ++ " ").intercalate
          (renderMembersWith shown qualified position members) ≠ "" := by
        rw [← String.toList_eq_nil_iff.ne, joined]
        exact fun spelled => nothing (joinedSymbols_eq_nil_of_spell spelled)
      rw [if_neg something, spell_enclose shown position nothing, String.toList_append,
        String.toList_append, joined]

/-- The members of a group are rendered by spelling out their joined symbols, and none of them says
anything exactly if there are no symbols. -/
theorem toList_renderMembersWith (position : Nat) (connective : Connective)
    (members : List Condition) :
    (renderMembersWith shown qualified position members = [] ↔
      joinedSymbols qualified connective members = []) ∧
    ((" " ++ connective.sql ++ " ").intercalate
        (renderMembersWith shown qualified position members)).toList =
      spell shown position (joinedSymbols qualified connective members) := by
  cases members with
  | nil => simp [renderMembersWith, joinedSymbols, spell]
  | cons member rest =>
    have first := toList_renderWith position member
    obtain ⟨none, later⟩ :=
      toList_renderMembersWith (position + member.placeholders) connective rest
    simp only [renderMembersWith, joinedSymbols]
    by_cases nothing : member.symbols qualified = []
    · -- A member that says nothing takes no place, so the rest starts where it did.
      have silent : member.renderWith shown qualified position = "" := by
        rw [← String.toList_eq_nil_iff, first, nothing, spell]
      have noPlace : member.placeholders = 0 := by
        rw [placeholders_eq_length, ← values_symbols qualified, nothing]
        rfl
      rw [if_pos silent, nothing, nil_join]
      rw [noPlace, Nat.add_zero] at none later ⊢
      exact ⟨none, later⟩
    · have something : member.renderWith shown qualified position ≠ "" := by
        rw [← String.toList_eq_nil_iff.ne, first]
        exact fun spelled => nothing (symbols_eq_nil_of_spell spelled)
      rw [if_neg something, intercalate_cons]
      -- The connective is written exactly if a later member says something as well.
      by_cases last : joinedSymbols qualified connective rest = []
      · rw [if_pos (none.mpr last), last, join_nil]
        exact ⟨by simp [nothing], first⟩
      · rw [if_neg (none.not.mpr last), join_of_ne_nil connective nothing last]
        refine ⟨by simp, ?_⟩
        -- The later members are spelled out from the position that the first one leads to.
        rw [← join_of_ne_nil connective nothing last,
          spell_join shown position connective nothing last, String.toList_append,
          String.toList_append, first, later, values_symbols, placeholders_eq_length]

end

/-- A condition that stands alone is rendered by spelling out its symbols without parentheses. -/
theorem toList_renderAloneWith (position : Nat) (condition : Condition) :
    (condition.renderAloneWith shown qualified position).toList =
      spell shown position (condition.symbolsAlone qualified) := by
  -- Alone, a comparison is as it is anywhere, and a group is its members without parentheses.
  cases condition with
  | value column comparison bound => exact toList_renderWith shown qualified position _
  | columns left comparison right => exact toList_renderWith shown qualified position _
  | group connective members =>
    exact (toList_renderMembersWith shown qualified position connective members).2

/-- The text of a condition inside another one is that of its symbols. -/
theorem toList_render (condition : Condition) :
    (condition.render qualified).toList =
      spell questionMark 0 (condition.symbols qualified) := by
  rw [← renderWith_questionMark qualified 0, toList_renderWith]

/-- The text of a condition alone is that of its symbols without parentheses. -/
theorem toList_renderAlone (condition : Condition) :
    (condition.renderAlone qualified).toList =
      spell questionMark 0 (condition.symbolsAlone qualified) := by
  rw [← renderAloneWith_questionMark qualified 0, toList_renderAloneWith]

end RowQuery.Condition
