import RowQuery.Proofs.Condition.Grammar
import RowQuery.Proofs.Statement.Shown

/-!
What conditions mean. A condition is true, false or unknown of a row as its comparisons are, groups
without comparisons being left out, and its text says the same: it is read as one expression, which
has that truth.
-/

namespace RowQuery

/-- The truth of a comparison of values that may be missing. -/
inductive Truth where
  | holds
  | fails
  | unknown

/-- What two truths joined by a connective come to. -/
def Connective.truth : Connective → Truth → Truth → Truth
  | .all, .holds, right => right
  | .all, .fails, _ => .fails
  | .all, .unknown, .fails => .fails
  | .all, .unknown, _ => .unknown
  -- Under the other connective the parts of what holds and what fails are exchanged.
  | .any, .fails, right => right
  | .any, .holds, _ => .holds
  | .any, .unknown, .holds => .holds
  | .any, .unknown, _ => .unknown

/-- It does not matter which of three truths are joined first. -/
instance (connective : Connective) : Std.Associative connective.truth where
  assoc first second third := by
    cases connective <;> cases first <;> cases second <;> cases third <;> rfl

/-- The truth of an expression under a meaning of its comparisons. -/
def Expression.truth {ν : Type} (meaning : Predicate ν → Truth) : Expression ν → Truth
  | .single predicate => meaning predicate
  | .joined connective left right => connective.truth (left.truth meaning) (right.truth meaning)

/-- An expression with other names has the truth that its comparisons have under these. -/
theorem Expression.truth_rename {ν μ : Type} (rename : ν → μ) (meaning : Predicate μ → Truth)
    (expression : Expression ν) :
    (expression.rename rename).truth meaning =
      expression.truth fun predicate => meaning (predicate.rename rename) := by
  -- Names occur in comparisons only, so the connectives stay where they are.
  induction expression with
  | single predicate => rfl
  | joined connective left right first second =>
    rw [Expression.rename, truth, truth, first, second]

namespace Condition

mutual

/-- The truth of a condition under a meaning of its comparisons, if there are any. -/
def truth? (meaning : Predicate Column → Truth) : Condition → Option Truth
  | .value column comparison bound => some (meaning ⟨column, comparison, .bound bound⟩)
  | .columns left comparison right => some (meaning ⟨left, comparison, .name right⟩)
  | .group connective members => truthOfAll? meaning connective members

/-- The truth of conditions joined by a connective; those without comparisons are left out. -/
def truthOfAll? (meaning : Predicate Column → Truth) (connective : Connective) :
    List Condition → Option Truth
  | [] => none
  | member :: rest =>
    (member.truth? meaning).merge connective.truth (truthOfAll? meaning connective rest)

end

mutual

/-- The comparisons in a condition, in order. -/
def predicates : Condition → List (Predicate Column)
  | .value column comparison bound => [⟨column, comparison, .bound bound⟩]
  | .columns left comparison right => [⟨left, comparison, .name right⟩]
  | .group _ members => predicatesOfAll members

/-- The comparisons in several conditions, in order. -/
def predicatesOfAll : List Condition → List (Predicate Column)
  | [] => []
  | member :: rest => member.predicates ++ predicatesOfAll rest

end

end Condition

/-- Symbols of some rank mean a truth that may be missing: there are none and it is, or they are
read as an expression that has it, with names for the columns. -/
inductive Means (name : Column → String) (rank : Rank) :
    List Symbol → ((Predicate Column → Truth) → Option Truth) → Prop where
  | nothing {truth? : (Predicate Column → Truth) → Option Truth} :
    (∀ meaning, truth? meaning = none) → Means name rank [] truth?
  | something {symbols : List Symbol} {truth? : (Predicate Column → Truth) → Option Truth}
    (expression : Expression Column) : Reads rank symbols (expression.rename name) →
      (∀ meaning, truth? meaning = some (expression.truth meaning)) → Means name rank symbols truth?

/-- An expression has at least one symbol. -/
theorem Reads.ne_nil {rank : Rank} {symbols : List Symbol} {expression : Expression String}
    (reads : Reads rank symbols expression) : symbols ≠ [] := by
  -- What is read at one rank is read at the next without more symbols.
  induction reads with
  | factor _ ih => exact ih
  | term _ ih => exact ih
  | _ => simp

namespace Means

variable {name : Column → String} {truth? other? : (Predicate Column → Truth) → Option Truth}

/-- In parentheses, symbols of any rank mean the same as a primary expression. -/
theorem enclose {symbols : List Symbol} (means : Means name .disjunction symbols truth?) :
    Means name .primary (Symbol.enclose symbols) truth? := by
  -- There are parentheses exactly if there is something to put in them.
  cases means with
  | nothing missing => exact .nothing missing
  | something expression reads truth =>
    have enclosed : Symbol.enclose symbols = .opening :: (symbols ++ [.closing]) := by
      obtain ⟨first, rest, rfl⟩ := List.exists_cons_of_ne_nil reads.ne_nil
      rfl
    rw [enclosed]
    exact .something expression (.parentheses reads) truth

/-- Joined symbols mean the joined truths, where both are there, and else the one that is. -/
theorem join {connective : Connective} {left right : List Symbol}
    (first : Means name connective.rank left truth?) (second : Means name .primary right other?) :
    Means name connective.rank (Symbol.join connective left right) fun meaning =>
      (truth? meaning).merge connective.truth (other? meaning) := by
  -- A side that is missing leaves the other one as it is, in the text and in the truth.
  cases first with
  | nothing missing =>
    rw [Symbol.nil_join]
    simp only [missing, Option.merge_none_left]
    cases second with
    | nothing missing => exact .nothing missing
    | something expression reads truth => exact .something expression (reads.ofPrimary _) truth
  | something before readsLeft truthLeft =>
    cases second with
    | nothing missing =>
      rw [Symbol.join_nil]
      simp only [missing, Option.merge_none_right]
      exact .something before readsLeft truthLeft
    | something behind readsRight truthRight =>
      -- Two expressions have the connective between them, and their truths are joined by it.
      rw [Symbol.join_of_ne_nil connective readsLeft.ne_nil readsRight.ne_nil]
      refine .something (.joined connective before behind) (readsLeft.join readsRight) ?_
      intro meaning
      rw [truthLeft, truthRight]
      rfl

/-- Symbols of one rank mean the same as symbols of another one that includes it. -/
theorem weaken {rank weaker : Rank} {symbols : List Symbol}
    (includes : ∀ {expression : Expression String}, Reads rank symbols expression →
      Reads weaker symbols expression)
    (means : Means name rank symbols truth?) : Means name weaker symbols truth? := by
  cases means with
  | nothing missing => exact .nothing missing
  | something expression reads truth => exact .something expression (includes reads) truth

end Means

/-- It does not matter which of three rows are joined first. -/
theorem Symbol.join_assoc (connective : Connective) (left middle right : List Symbol) :
    join connective (join connective left middle) right =
      join connective left (join connective middle right) := by
  -- An empty row joins without a connective, so each row is tried as an empty one.
  cases left with
  | nil => rw [nil_join, nil_join]
  | cons _ _ =>
    cases middle with
    | nil => rw [join_nil, nil_join]
    | cons _ _ =>
      cases right with
      | nil => rw [join_nil, join_nil]
      | cons _ _ => simp [join]

namespace Condition

mutual

/-- The symbols of a condition mean its truth. -/
theorem means_symbols (qualified : Bool) (condition : Condition) :
    Means (fun column => column.render qualified) .primary (condition.symbols qualified)
      fun meaning => condition.truth? meaning := by
  cases condition with
  | value column comparison bound =>
    refine .something (.single ⟨column, comparison, .bound bound⟩) ?_ fun meaning => ?truth
    case truth => rw [truth?, Expression.truth]
    rw [symbols]
    exact .value _ comparison bound
  | columns left comparison right =>
    refine .something (.single ⟨left, comparison, .name right⟩) ?_ fun meaning => ?truth
    case truth => rw [truth?, Expression.truth]
    rw [symbols]
    exact .columns _ comparison _
  | group connective members =>
    -- The members are joined behind nothing, and then put in parentheses.
    have joined := means_joinedSymbols qualified connective members [] (.nothing fun _ => rfl)
    simp only [Symbol.nil_join, Option.merge_none_left] at joined
    rw [symbols]
    simp only [truth?]
    exact (joined.weaken Reads.toDisjunction).enclose

/-- The symbols of conditions joined behind others mean what all of them come to. -/
theorem means_joinedSymbols (qualified : Bool) (connective : Connective)
    (members : List Condition) (front : List Symbol)
    {truth? : (Predicate Column → Truth) → Option Truth}
    (means : Means (fun column => column.render qualified) connective.rank front truth?) :
    Means (fun column => column.render qualified) connective.rank
      (Symbol.join connective front (joinedSymbols qualified connective members)) fun meaning =>
        (truth? meaning).merge connective.truth (truthOfAll? meaning connective members) := by
  cases members with
  | nil =>
    simpa only [joinedSymbols, truthOfAll?, Symbol.join_nil, Option.merge_none_right] using means
  | cons member rest =>
    -- The grammar joins from left to right, so the first member is joined with what is in front.
    have first := means.join (means_symbols qualified member)
    have all := means_joinedSymbols qualified connective rest _ first
    simp only [joinedSymbols, truthOfAll?]
    rw [← Symbol.join_assoc]
    simpa only [Std.Associative.assoc] using all

end

mutual

/-- A condition has no symbols exactly if there is no comparison in it. -/
theorem symbols_eq_nil_iff (qualified : Bool) (condition : Condition) :
    condition.symbols qualified = [] ↔ condition.predicates = [] := by
  cases condition with
  | value column comparison bound => simp [symbols, predicates]
  | columns left comparison right => simp [symbols, predicates]
  | group connective members =>
    -- Parentheses are put around something only.
    rw [symbols, predicates, ← joinedSymbols_eq_nil_iff qualified connective members]
    cases joinedSymbols qualified connective members <;> simp [Symbol.enclose]

/-- Joined conditions have no symbols exactly if there is no comparison in them. -/
theorem joinedSymbols_eq_nil_iff (qualified : Bool) (connective : Connective)
    (members : List Condition) :
    joinedSymbols qualified connective members = [] ↔ predicatesOfAll members = [] := by
  cases members with
  | nil => simp [joinedSymbols, predicatesOfAll]
  | cons member rest =>
    rw [joinedSymbols, predicatesOfAll, List.append_eq_nil_iff,
      ← symbols_eq_nil_iff qualified member, ← joinedSymbols_eq_nil_iff qualified connective rest]
    -- Joined rows are empty only if both are.
    cases member.symbols qualified with
    | nil => simp
    | cons _ _ => cases joinedSymbols qualified connective rest <;> simp [Symbol.join]

end

/-- A condition says nothing exactly if there is no comparison in it. -/
theorem render_eq_empty_iff (qualified : Bool) (condition : Condition) :
    condition.render qualified = "" ↔ condition.predicates = [] := by
  -- The text is that of the symbols, and symbols are never spelled out as nothing.
  rw [← symbols_eq_nil_iff qualified, ← String.toList_eq_nil_iff, toList_render]
  constructor
  · exact symbols_eq_nil_of_spell
  · intro nothing
    rw [nothing, Symbol.spell]

/-- There is no comparison in several conditions exactly if there is none in each of them. -/
theorem predicatesOfAll_eq_nil_iff {conditions : List Condition} :
    predicatesOfAll conditions = [] ↔ ∀ condition ∈ conditions, condition.predicates = [] := by
  induction conditions with
  | nil => simp [predicatesOfAll]
  | cons condition rest ih => simp [predicatesOfAll, ih]

/-- A condition alone says nothing exactly if there is no comparison in it. -/
theorem renderAlone_eq_empty_iff (qualified : Bool) (condition : Condition) :
    condition.renderAlone qualified = "" ↔ condition.predicates = [] := by
  -- A group alone has no parentheses, so it says nothing if its members do not.
  cases condition with
  | value column comparison bound => exact render_eq_empty_iff qualified _
  | columns left comparison right => exact render_eq_empty_iff qualified _
  | group connective members =>
    rw [predicates, ← joinedSymbols_eq_nil_iff qualified connective, ← String.toList_eq_nil_iff,
      toList_renderAlone]
    constructor
    · exact joinedSymbols_eq_nil_of_spell
    · intro nothing
      rw [symbolsAlone, nothing, Symbol.spell]

/-- A conjunction of conditions says nothing exactly if there is no comparison in any of them. -/
theorem renderAlone_all_eq_empty_iff (qualified : Bool) (conditions : List Condition) :
    (all conditions).renderAlone qualified = "" ↔
      ∀ condition ∈ conditions, condition.predicates = [] := by
  rw [renderAlone_eq_empty_iff, all, predicates, predicatesOfAll_eq_nil_iff]

/-- A column compared in several conditions is compared in one of them. -/
theorem exists_of_mem_comparedColumnsOfAll {conditions : List Condition} {column : Column}
    (compared : column ∈ comparedColumnsOfAll conditions) :
    ∃ condition ∈ conditions, column ∈ condition.comparedColumns := by
  -- The columns of the first condition stand in front of those of the rest.
  induction conditions with
  | nil => simp [comparedColumnsOfAll] at compared
  | cons condition rest ih =>
    rw [comparedColumnsOfAll, List.mem_append] at compared
    rcases compared with here | later
    · exact ⟨condition, List.mem_cons_self, here⟩
    · obtain ⟨other, member, found⟩ := ih later
      exact ⟨other, List.mem_cons_of_mem _ member, found⟩

end Condition

/-- Columns with plain names are rendered as names of columns. -/
theorem isColumnName_of_mem_map_render {columns : List Column}
    (plain : ∀ column ∈ columns, column.IsPlain) (qualified : Bool) :
    ∀ name ∈ columns.map fun column => column.render qualified,
      isColumnName name.toList = true := by
  intro name member
  obtain ⟨column, found, rfl⟩ := List.mem_map.mp member
  exact (plain column found).isColumnName_render qualified

/-- A text with bound values is a sentence of the grammar and is read as an expression. -/
def ReadAs (text : String) (binds : List Value) (expression : Expression String) : Prop :=
  ∃ symbols, Symbol.read? text binds = some symbols ∧ Reads .disjunction symbols expression

/-- A text says what a condition means: with the values that the condition binds it is read as one
expression and as no other, and that has the condition's truth under every meaning of comparisons,
those of the columns and those of the names that stand for them in the text. -/
structure Condition.SaidBy (condition : Condition) (qualified : Bool) (text : String)
    (expression : Expression Column) : Prop where
  read : ∀ other, ReadAs text condition.binds other ↔
    other = expression.rename fun column => column.render qualified
  truth : ∀ meaning, condition.truth? meaning = some (expression.truth meaning)
  truth_read : ∀ meaning : Predicate String → Truth,
    (condition.truth? fun predicate => meaning (predicate.rename fun column =>
      column.render qualified)) =
      some ((expression.rename fun column => column.render qualified).truth meaning)

/-- A text of symbols that are read as an expression says what a condition with the same values and
the same truth means. -/
theorem Condition.exists_saidBy {condition : Condition} {qualified : Bool} {text : String}
    {symbols : List Symbol} (spelled : text.toList = Symbol.spell questionMark 0 symbols)
    (some : text ≠ "") (chain : symbols.IsChain Symbol.MayPrecede)
    (bound : Symbol.values symbols = condition.binds)
    (named : ∀ name ∈ Symbol.names symbols, isColumnName name.toList = true)
    (means : Means (fun column => column.render qualified) .disjunction symbols
      fun meaning => condition.truth? meaning) :
    ∃ expression, condition.SaidBy qualified text expression := by
  have read : Symbol.read? text condition.binds = .some symbols := by
    rw [← bound]
    exact Symbol.read?_of_spell chain (fun name member => named name (Symbol.mem_names.mpr member))
      spelled
  cases means with
  | nothing missing =>
    -- Without symbols there would be no text.
    rw [Symbol.spell, String.toList_eq_nil_iff] at spelled
    contradiction
  | something expression reads truth =>
    refine ⟨expression, fun other => ⟨?_, ?_⟩, truth, fun meaning => ?_⟩
    · -- Any other reading starts from the same symbols, and these are read in one way only.
      rintro ⟨others, readOthers, readsOther⟩
      obtain rfl : symbols = others := Option.some.inj (read.symm.trans readOthers)
      exact readsOther.unique reads
    · rintro rfl
      exact ⟨symbols, read, reads⟩
    · -- A meaning of the names in the text is one of the columns they stand for.
      rw [Expression.truth_rename]
      exact truth _

/-- The condition of a selection is absent exactly if it says nothing. -/
theorem Selection.whereClause_eq_empty_iff (selection : Selection) :
    selection.whereClause = "" ↔ selection.condition.renderAlone selection.isQualified = "" := by
  rw [whereClause]
  -- Behind the keyword there is always a text.
  by_cases silent : selection.condition.renderAlone selection.isQualified = "" <;> simp [silent]

/-- The text of a condition means the condition. With plain names, every condition of a selection
and their conjunction, with or without tables in front of the columns, is absent exactly if there is
no comparison in it, and else its text is a sentence of the grammar that says what it means. -/
theorem text_means_condition (selection : Selection) (qualified : Bool)
    (plain : ∀ condition ∈ selection.conditions, ∀ column ∈ condition.comparedColumns,
      column.IsPlain) :
    (∀ condition ∈ selection.conditions,
      (condition.render qualified = "" ↔ condition.predicates = []) ∧
      (condition.render qualified ≠ "" →
        ∃ expression, condition.SaidBy qualified (condition.render qualified) expression)) ∧
    (selection.condition.renderAlone qualified ≠ "" →
      ∃ expression, selection.condition.SaidBy qualified
        (selection.condition.renderAlone qualified) expression) ∧
    (selection.condition.renderAlone qualified = "" ↔
      ∀ condition ∈ selection.conditions, condition.predicates = []) ∧
    (selection.whereClause = "" ↔
      ∀ condition ∈ selection.conditions, condition.predicates = []) := by
  have absent := Condition.renderAlone_all_eq_empty_iff qualified selection.conditions
  refine ⟨fun condition member => ⟨condition.render_eq_empty_iff qualified, fun some => ?_⟩,
    fun some => ?_, absent, ?_⟩
  · have named : ∀ name ∈ Symbol.names (condition.symbols qualified),
        isColumnName name.toList = true := by
      rw [Condition.names_symbols]
      exact isColumnName_of_mem_map_render (plain condition member) qualified
    -- A single condition is a primary expression, which stands alone as a disjunction.
    have means := (condition.means_symbols qualified).weaken fun reads => .term (.factor reads)
    exact Condition.exists_saidBy (condition.toList_render qualified) some
      (condition.isChain_symbols qualified) (condition.values_symbols qualified) named means
  · have named : ∀ name ∈
        Symbol.names (Condition.joinedSymbols qualified .all selection.conditions),
        isColumnName name.toList = true := by
      rw [Condition.names_joinedSymbols]
      refine isColumnName_of_mem_map_render (fun column compared => ?_) qualified
      obtain ⟨condition, member, here⟩ := Condition.exists_of_mem_comparedColumnsOfAll compared
      exact plain condition member column here
    -- The conjunction is read without parentheses, from its first member on.
    have joined := Condition.means_joinedSymbols qualified .all selection.conditions []
      (.nothing fun _ => rfl)
    simp only [Symbol.nil_join, Option.merge_none_left] at joined
    have means := joined.weaken Reads.toDisjunction
    exact Condition.exists_saidBy (selection.condition.toList_renderAlone qualified) some
      (Condition.isChain_joinedSymbols qualified .all selection.conditions)
      (Condition.values_joinedSymbols qualified .all selection.conditions) named means
  · rw [selection.whereClause_eq_empty_iff]
    exact Condition.renderAlone_all_eq_empty_iff selection.isQualified selection.conditions

/-- A disjunction under a conjunction keeps its parentheses, groups without comparisons are gone,
and the text of both conditions is read back. -/
theorem text_means_condition_of_nested_groups :
    let age : Column := ⟨"users", "age"⟩
    let name : Column := ⟨"users", "name"⟩
    let owner : Column := ⟨"orders", "owner_2"⟩
    let either := Condition.any [.all [], .value age .lessOrEqual (.int 18), .any [.all [
      .columns name .equal owner, .value name .like (.text "a%")]]]
    let selection : Selection :=
      ⟨[name, owner], [either, .any [.any []], .value age .notEqual .null], [], {}⟩
    (∀ condition ∈ selection.conditions, ∀ column ∈ condition.comparedColumns, column.IsPlain) ∧
      (selection.condition.renderAlone true).toList =
        ("( users.age <= ? OR ( ( users.name = orders.owner_2 AND users.name LIKE ? ) ) )" ++
          " AND users.age != ?").toList ∧
      ∃ expression, selection.condition.SaidBy true (selection.condition.renderAlone true)
        expression := by
  intro age name owner either selection
  -- Plain names and the text are decided; that the text is read back is the general statement.
  have plain : ∀ condition ∈ selection.conditions, ∀ column ∈ condition.comparedColumns,
      column.IsPlain := by
    simp only [Column.IsPlain]
    decide
  have text : (selection.condition.renderAlone true).toList =
      ("( users.age <= ? OR ( ( users.name = orders.owner_2 AND users.name LIKE ? ) ) )" ++
        " AND users.age != ?").toList := by
    decide +kernel
  have some : selection.condition.renderAlone true ≠ "" := by
    intro nothing
    rw [nothing] at text
    exact absurd text (by decide)
  exact ⟨plain, text, (text_means_condition selection true plain).2.1 some⟩

end RowQuery
