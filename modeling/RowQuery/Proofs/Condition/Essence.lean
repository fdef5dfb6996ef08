import RowQuery.Proofs.Condition.Symbols

/-!
What the symbols of a condition say about it. They leave out groups without a comparison and the
connective of groups that are left with a single member. Nothing else is lost: conditions with the
same symbols are the same without that.
-/

namespace RowQuery.Condition

open RowQuery.Symbol

mutual

/-- The condition without the groups in it that have no comparison, and with the same connective for
all groups that are left with one member. Nothing is left of a condition without a comparison. -/
def essential : Condition → Option Condition
  | .value column comparison bound => some (.value column comparison bound)
  | .columns left comparison right => some (.columns left comparison right)
  | .group connective members =>
    match essentialEach members with
    | [] => none
    -- With one member no connective is written, so none is told apart.
    | [only] => some (.group .all [only])
    | several => some (.group connective several)

/-- What is left of several conditions. -/
def essentialEach : List Condition → List Condition
  | [] => []
  | member :: rest => member.essential.toList ++ essentialEach rest

end

mutual

/-- A condition from which nothing is left out: every group has a member, and the connective of
groups with one member is always the same. -/
def IsEssential : Condition → Prop
  | .value _ _ _ => True
  | .columns _ _ _ => True
  | .group connective members =>
    members ≠ [] ∧ (members.length = 1 → connective = .all) ∧ AreEssential members

/-- Conditions from each of which nothing is left out. -/
def AreEssential : List Condition → Prop
  | [] => True
  | member :: rest => member.IsEssential ∧ AreEssential rest

end

/-- Conditions one after the other are essential if both rows of them are. -/
theorem areEssential_append {left right : List Condition} :
    AreEssential (left ++ right) ↔ AreEssential left ∧ AreEssential right := by
  induction left with
  | nil => simp [AreEssential]
  | cons member rest ih => simp [AreEssential, ih, and_assoc]

mutual

/-- What is left of a condition is essential. -/
theorem isEssential_essential (condition : Condition) :
    AreEssential condition.essential.toList := by
  cases condition with
  | value column comparison bound => simp [essential, AreEssential, IsEssential]
  | columns left comparison right => simp [essential, AreEssential, IsEssential]
  | group connective members =>
    have kept := areEssential_essentialEach members
    rw [essential]
    -- A group is left out, or it is left with one member or with several.
    match each : essentialEach members with
    | [] => simp [AreEssential]
    | [only] =>
      rw [each] at kept
      simpa [AreEssential, IsEssential] using kept
    | first :: second :: rest =>
      rw [each] at kept
      simpa [AreEssential, IsEssential] using kept

/-- What is left of several conditions is essential. -/
theorem areEssential_essentialEach (members : List Condition) :
    AreEssential (essentialEach members) := by
  -- Members are taken one by one; each leaves one condition or none.
  cases members with
  | nil => simp [essentialEach, AreEssential]
  | cons member rest =>
    rw [essentialEach, areEssential_append]
    exact ⟨isEssential_essential member, areEssential_essentialEach rest⟩

end

mutual

/-- What is left of a condition compares the same columns. -/
theorem comparedColumns_essential (condition : Condition) :
    comparedColumnsOfAll condition.essential.toList = condition.comparedColumns := by
  cases condition with
  | value column comparison bound => simp [essential, comparedColumnsOfAll]
  | columns left comparison right => simp [essential, comparedColumnsOfAll]
  | group connective members =>
    have kept := comparedColumnsOfAll_essentialEach members
    rw [essential, comparedColumns, ← kept]
    -- A group is left out without members, replaced by its only one, or kept.
    match each : essentialEach members with
    | [] => simp [comparedColumnsOfAll]
    | [only] => simp [comparedColumnsOfAll, comparedColumns]
    | first :: second :: rest => simp [comparedColumnsOfAll, comparedColumns]

/-- What is left of several conditions compares the same columns. -/
theorem comparedColumnsOfAll_essentialEach (members : List Condition) :
    comparedColumnsOfAll (essentialEach members) = comparedColumnsOfAll members := by
  cases members with
  | nil => simp [essentialEach, comparedColumnsOfAll]
  | cons member rest =>
    have first := comparedColumns_essential member
    have later := comparedColumnsOfAll_essentialEach rest
    rw [essentialEach, comparedColumnsOfAll, ← first, ← later]
    -- What is left of the first condition is nothing or one condition.
    cases member.essential <;> simp [comparedColumnsOfAll]

end

section Symbols

variable (qualified : Bool)

/-- A single condition is joined with nothing. -/
theorem joinedSymbols_singleton (connective : Connective) (member : Condition) :
    joinedSymbols qualified connective [member] = member.symbols qualified := by
  simp [joinedSymbols]

mutual

/-- What is left of a condition has the same symbols. -/
theorem symbols_essential (connective : Connective) (condition : Condition) :
    joinedSymbols qualified connective condition.essential.toList =
      condition.symbols qualified := by
  cases condition with
  | value column comparison bound => simp [essential, joinedSymbols]
  | columns left comparison right => simp [essential, joinedSymbols]
  | group other members =>
    have kept := fun between => joinedSymbols_essentialEach between members
    rw [essential, symbols]
    match each : essentialEach members with
    | [] =>
      -- Without comparisons there are no symbols to put in parentheses.
      rw [← kept other, each]
      simp [joinedSymbols, enclose]
    | [only] =>
      rw [← kept other, each]
      simp [joinedSymbols, symbols]
    | first :: second :: rest =>
      rw [← kept other, each]
      simp [joinedSymbols_singleton, symbols]

/-- What is left of several conditions has the same joined symbols. -/
theorem joinedSymbols_essentialEach (connective : Connective) (members : List Condition) :
    joinedSymbols qualified connective (essentialEach members) =
      joinedSymbols qualified connective members := by
  cases members with
  | nil => simp [essentialEach]
  | cons member rest =>
    have first := symbols_essential connective member
    have later := joinedSymbols_essentialEach connective rest
    rw [essentialEach, joinedSymbols, ← first, ← later]
    -- A member that is left out has no symbols, so nothing is joined for it.
    cases member.essential <;> simp [joinedSymbols]

end

mutual

/-- A condition from which nothing is left out has symbols. -/
theorem symbols_ne_nil (condition : Condition) (essential : condition.IsEssential) :
    condition.symbols qualified ≠ [] := by
  -- A group that is left has a member, whose symbols the parentheses enclose.
  cases condition with
  | value column comparison bound => simp [symbols]
  | columns left comparison right => simp [symbols]
  | group connective members =>
    obtain ⟨some, _, inner⟩ := essential
    have joined := joinedSymbols_ne_nil connective members inner some
    obtain ⟨first, rest, symbols'⟩ := List.exists_cons_of_ne_nil joined
    simp [symbols, symbols', enclose]

/-- Joined conditions from which nothing is left out have symbols. -/
theorem joinedSymbols_ne_nil (connective : Connective) (members : List Condition)
    (essential : AreEssential members) (some : members ≠ []) :
    joinedSymbols qualified connective members ≠ [] := by
  cases members with
  | nil => contradiction
  | cons member rest =>
    have first := symbols_ne_nil member essential.1
    rw [joinedSymbols]
    -- Whatever is joined behind the first member, its symbols stay.
    by_cases later : joinedSymbols qualified connective rest = []
    · rwa [later, join_nil]
    · rw [join_of_ne_nil connective first later]
      exact List.append_ne_nil_of_left_ne_nil first _

end

variable {qualified}

/-- The symbols of a first condition come first, and a connective follows if there are more. -/
theorem joinedSymbols_cons (connective : Connective) {member : Condition}
    {members : List Condition} (first : member.IsEssential) (later : AreEssential members) :
    joinedSymbols qualified connective (member :: members) =
      member.symbols qualified ++
        if members = [] then []
        else .word connective :: joinedSymbols qualified connective members := by
  have some := symbols_ne_nil qualified member first
  rw [joinedSymbols]
  -- The connective stands between two rows of symbols only if neither is empty.
  by_cases last : members = []
  · rw [if_pos last, last, joinedSymbols, join_nil, List.append_nil]
  · rw [if_neg last, join_of_ne_nil connective some
      (joinedSymbols_ne_nil qualified connective members later last)]

/-- Columns of two conditions are told apart by their names. -/
def NamesDiffer (qualified : Bool) (columns others : List Column) : Prop :=
  ∀ column ∈ columns, ∀ other ∈ others,
    column.render qualified = other.render qualified → column = other

/-- Behind symbols there is no connective to join more with. -/
def EndsJoin (symbols : List Symbol) : Prop :=
  ∀ connective, symbols.head? ≠ some (.word connective)

/-- The symbols of a group are those of its members between parentheses. -/
theorem symbols_group {connective : Connective} {members : List Condition}
    (essential : (Condition.group connective members).IsEssential) :
    (Condition.group connective members).symbols qualified =
      .opening :: (joinedSymbols qualified connective members ++ [.closing]) := by
  obtain ⟨first, rest, joined⟩ := List.exists_cons_of_ne_nil
    (joinedSymbols_ne_nil qualified connective members essential.2.2 essential.1)
  rw [symbols, joined, enclose]

mutual

/-- Conditions from which nothing is left out are told apart by their symbols, whatever follows. -/
theorem eq_of_symbols_append (left right : Condition) (essential : left.IsEssential)
    (essentialOther : right.IsEssential)
    (apart : NamesDiffer qualified left.comparedColumns right.comparedColumns)
    {rest others : List Symbol}
    (same : left.symbols qualified ++ rest = right.symbols qualified ++ others) :
    left = right ∧ rest = others := by
  cases left with
  | value column comparison bound =>
    cases right with
    | value column' comparison' bound' =>
      simp only [symbols, List.cons_append, List.nil_append, List.cons.injEq, Symbol.name.injEq,
        Symbol.operator.injEq, Symbol.place.injEq] at same
      obtain ⟨names, rfl, rfl, behind⟩ := same
      obtain rfl := apart column (by simp [comparedColumns]) column' (by simp [comparedColumns])
        names
      exact ⟨rfl, behind⟩
    | columns _ _ _ => simp [symbols] at same
    | group connective members =>
      rw [symbols_group essentialOther] at same
      simp [symbols] at same
  | columns first comparison second =>
    cases right with
    | value _ _ _ => simp [symbols] at same
    | columns first' comparison' second' =>
      simp only [symbols, List.cons_append, List.nil_append, List.cons.injEq, Symbol.name.injEq,
        Symbol.operator.injEq] at same
      obtain ⟨names, rfl, namesOther, behind⟩ := same
      obtain rfl := apart first (by simp [comparedColumns]) first' (by simp [comparedColumns]) names
      obtain rfl := apart second (by simp [comparedColumns]) second' (by simp [comparedColumns])
        namesOther
      exact ⟨rfl, behind⟩
    | group connective members =>
      rw [symbols_group essentialOther] at same
      simp [symbols] at same
  | group connective members =>
    rw [symbols_group essential] at same
    cases right with
    | value _ _ _ => simp [symbols] at same
    | columns _ _ _ => simp [symbols] at same
    | group connective' members' =>
      rw [symbols_group essentialOther] at same
      simp only [List.cons_append, List.append_assoc, List.nil_append, List.cons.injEq,
        true_and] at same
      obtain ⟨some, only, inner⟩ := essential
      obtain ⟨someOther, onlyOther, innerOther⟩ := essentialOther
      -- A closing parenthesis follows the members, and no connective.
      have ends : ∀ behind : List Symbol, EndsJoin (.closing :: behind) :=
        fun _ _ word => by simp at word
      obtain ⟨rfl, connectives, behind⟩ := eq_of_joinedSymbols_append members members' inner
        innerOther some someOther (by simpa [comparedColumns] using apart) (ends rest) (ends others)
        same
      -- With one member both connectives are that of a conjunction.
      have sameConnective : connective = connective' := by
        by_cases single : members.length = 1
        · rw [only single, onlyOther single]
        · exact connectives single
      rw [sameConnective]
      exact ⟨rfl, (List.cons.inj behind).2⟩

/-- Joined conditions from which nothing is left out are told apart by their symbols, unless more is
joined behind them. So are the connectives between them, if there are any. -/
theorem eq_of_joinedSymbols_append {connective other : Connective} (members others : List Condition)
    (essential : AreEssential members) (essentialOther : AreEssential others)
    (some : members ≠ []) (someOther : others ≠ [])
    (apart : NamesDiffer qualified (comparedColumnsOfAll members) (comparedColumnsOfAll others))
    {rest behind : List Symbol} (ends : EndsJoin rest) (endsOther : EndsJoin behind)
    (same : joinedSymbols qualified connective members ++ rest =
      joinedSymbols qualified other others ++ behind) :
    members = others ∧ (members.length ≠ 1 → connective = other) ∧ rest = behind := by
  cases members with
  | nil => contradiction
  | cons member members =>
    cases others with
    | nil => contradiction
    | cons member' others =>
      obtain ⟨first, later⟩ := essential
      obtain ⟨firstOther, laterOther⟩ := essentialOther
      have apartFirst : NamesDiffer qualified member.comparedColumns member'.comparedColumns :=
        fun column compared column' compared' =>
          apart column (by simp [comparedColumnsOfAll, compared]) column'
            (by simp [comparedColumnsOfAll, compared'])
      have apartLater : NamesDiffer qualified (comparedColumnsOfAll members)
          (comparedColumnsOfAll others) :=
        fun column compared column' compared' =>
          apart column (by simp [comparedColumnsOfAll, compared]) column'
            (by simp [comparedColumnsOfAll, compared'])
      rw [joinedSymbols_cons connective first later, joinedSymbols_cons other firstOther laterOther,
        List.append_assoc, List.append_assoc] at same
      obtain ⟨rfl, sameRest⟩ := eq_of_symbols_append member member' first firstOther apartFirst same
      -- Behind the first members either both rows have ended or both go on with a connective.
      by_cases last : members = []
      · by_cases lastOther : others = []
        · rw [if_pos last, if_pos lastOther] at sameRest
          rw [last, lastOther]
          exact ⟨rfl, fun several => absurd rfl several, sameRest⟩
        · rw [if_pos last, if_neg lastOther, List.nil_append] at sameRest
          exact absurd (by rw [sameRest]; rfl) (ends other)
      · by_cases lastOther : others = []
        · rw [if_neg last, if_pos lastOther, List.nil_append] at sameRest
          exact absurd (by rw [← sameRest]; rfl) (endsOther connective)
        · rw [if_neg last, if_neg lastOther] at sameRest
          simp only [List.cons_append, List.cons.injEq, Symbol.word.injEq] at sameRest
          obtain ⟨rfl, sameJoined⟩ := sameRest
          obtain ⟨rfl, _, sameBehind⟩ := eq_of_joinedSymbols_append members others later laterOther
            last lastOther apartLater ends endsOther sameJoined
          exact ⟨rfl, fun _ => rfl, sameBehind⟩

end

end Symbols

/-- Conditions that are joined to the same symbols are the same but for what is left out, if the
columns in them are told apart by their names. -/
theorem essentialEach_eq_of_joinedSymbols {qualified : Bool} {connective : Connective}
    {members others : List Condition}
    (apart : NamesDiffer qualified (comparedColumnsOfAll members) (comparedColumnsOfAll others))
    (same : joinedSymbols qualified connective members =
      joinedSymbols qualified connective others) :
    essentialEach members = essentialEach others := by
  rw [← joinedSymbols_essentialEach, ← joinedSymbols_essentialEach _ _ others] at same
  rw [← comparedColumnsOfAll_essentialEach, ← comparedColumnsOfAll_essentialEach others] at apart
  have kept := areEssential_essentialEach members
  have keptOther := areEssential_essentialEach others
  -- If nothing is left of the conditions on one side, there are no symbols on the other.
  by_cases none : essentialEach members = []
  · by_contra differ
    rw [none] at same differ
    exact joinedSymbols_ne_nil qualified connective _ keptOther (Ne.symm differ) same.symm
  · by_cases noneOther : essentialEach others = []
    · rw [noneOther] at same
      exact absurd same (joinedSymbols_ne_nil qualified connective _ kept none)
    · have ends : EndsJoin [] := fun _ word => by simp at word
      exact (eq_of_joinedSymbols_append _ _ kept keptOther none noneOther apart ends ends
        (congrArg (· ++ []) same)).1

end RowQuery.Condition
