import RowQuery.Proofs.Condition.Lexemes

/-!
The grammar of conditions. A row of symbols is read as comparisons joined by AND and OR, of which
AND binds tighter, and it is never read in two ways: a reader that goes through it once finds the
only expression.
-/

namespace RowQuery

/-- The right side of a comparison. -/
inductive Operand (ν : Type) where
  | name (name : ν)
  | bound (value : Value)

/-- A comparison with a value, or with something else that has a name. -/
structure Predicate (ν : Type) where
  left : ν
  comparison : Comparison
  right : Operand ν

/-- Comparisons joined by connectives. -/
inductive Expression (ν : Type) where
  | single (predicate : Predicate ν)
  | joined (connective : Connective) (left right : Expression ν)

/-- The same comparison with other names. -/
def Predicate.rename {ν μ : Type} (rename : ν → μ) (predicate : Predicate ν) : Predicate μ where
  left := rename predicate.left
  comparison := predicate.comparison
  right :=
    match predicate.right with
    | .name name => .name (rename name)
    | .bound value => .bound value

/-- The same expression with other names. -/
def Expression.rename {ν μ : Type} (rename : ν → μ) : Expression ν → Expression μ
  | .single predicate => .single (predicate.rename rename)
  | .joined connective left right =>
    .joined connective (left.rename rename) (right.rename rename)

/-- How tightly an expression holds together. -/
inductive Rank where
  | primary
  | conjunction
  | disjunction

/-- The grammar: a row of symbols is an expression of some rank. A comparison is primary, and so is
any expression in parentheses; a conjunction joins primary expressions by AND, and a disjunction
joins conjunctions by OR, both from left to right. -/
inductive Reads : Rank → List Symbol → Expression String → Prop where
  | value (name : String) (comparison : Comparison) (bound : Value) :
    Reads .primary [.name name, .operator comparison, .place bound]
      (.single ⟨name, comparison, .bound bound⟩)
  | columns (left : String) (comparison : Comparison) (right : String) :
    Reads .primary [.name left, .operator comparison, .name right]
      (.single ⟨left, comparison, .name right⟩)
  | parentheses {symbols : List Symbol} {inner : Expression String} :
    Reads .disjunction symbols inner → Reads .primary (.opening :: (symbols ++ [.closing])) inner
  | factor {symbols : List Symbol} {single : Expression String} :
    Reads .primary symbols single → Reads .conjunction symbols single
  | and {left right : List Symbol} {first second : Expression String} :
    Reads .conjunction left first → Reads .primary right second →
      Reads .conjunction (left ++ .word .all :: right) (.joined .all first second)
  | term {symbols : List Symbol} {single : Expression String} :
    Reads .conjunction symbols single → Reads .disjunction symbols single
  | or {left right : List Symbol} {first second : Expression String} :
    Reads .disjunction left first → Reads .conjunction right second →
      Reads .disjunction (left ++ .word .any :: right) (.joined .any first second)

/-- What has been read of one nesting level in front of an operand that is still to come. -/
structure Pending where
  /-- The disjunction in front of the last OR. -/
  disjunction? : Option (Expression String) := none
  /-- The conjunction in front of the last AND, since the last OR. -/
  conjunction? : Option (Expression String) := none

/-- An expression behind one that may be there already, joined with it. -/
def joinedBehind (connective : Connective) (left? : Option (Expression String))
    (right : Expression String) : Expression String :=
  match left? with
  | none => right
  | some left => .joined connective left right

/-- Where a reader of symbols stands. The nesting levels around the current one are kept with what
is pending on them. -/
inductive Reader where
  /-- In front of a comparison or of an opening parenthesis. -/
  | expecting (pending : Pending) (outer : List Pending)
  /-- Behind the first name of a comparison. -/
  | named (pending : Pending) (outer : List Pending) (left : String)
  /-- Behind the operator of a comparison. -/
  | compared (pending : Pending) (outer : List Pending) (left : String) (comparison : Comparison)
  /-- Behind a comparison or a closing parenthesis. -/
  | complete (disjunction? : Option (Expression String)) (conjunction : Expression String)
    (outer : List Pending)

namespace Reader

/-- Where a reader stands behind a primary expression. -/
def behind (pending : Pending) (outer : List Pending) (primary : Expression String) : Reader :=
  .complete pending.disjunction? (joinedBehind .all pending.conjunction? primary) outer

/-- One step of a reader, unless the symbol is out of place. -/
def step? : Reader → Symbol → Option Reader
  -- An opening parenthesis leaves what is pending for later and starts a level of its own.
  | .expecting pending outer, .opening => some (.expecting {} (pending :: outer))
  | .expecting pending outer, .name left => some (.named pending outer left)
  | .named pending outer left, .operator comparison =>
    some (.compared pending outer left comparison)
  | .compared pending outer left comparison, .place bound =>
    some (behind pending outer (.single ⟨left, comparison, .bound bound⟩))
  | .compared pending outer left comparison, .name right =>
    some (behind pending outer (.single ⟨left, comparison, .name right⟩))
  -- AND keeps the conjunction open; OR closes it and adds it to the disjunction.
  | .complete disjunction? conjunction outer, .word .all =>
    some (.expecting ⟨disjunction?, some conjunction⟩ outer)
  | .complete disjunction? conjunction outer, .word .any =>
    some (.expecting ⟨some (joinedBehind .any disjunction? conjunction), none⟩ outer)
  -- A closing parenthesis makes the whole level an operand of the one around it.
  | .complete disjunction? conjunction (pending :: outer), .closing =>
    some (behind pending outer (joinedBehind .any disjunction? conjunction))
  | _, _ => none

/-- Where a reader stands behind symbols. -/
def run? (reader : Reader) (symbols : List Symbol) : Option Reader :=
  symbols.foldlM step? reader

/-- Symbols behind others are read from where those lead to. -/
theorem run?_append (reader : Reader) (left right : List Symbol) :
    reader.run? (left ++ right) = (reader.run? left).bind fun between => between.run? right := by
  rw [run?, List.foldlM_append]
  rfl

/-- A symbol in front of others is read in one step. -/
theorem run?_cons {reader next : Reader} {symbol : Symbol} (step : reader.step? symbol = some next)
    (rest : List Symbol) : reader.run? (symbol :: rest) = next.run? rest := by
  rw [run?, List.foldlM_cons, step]
  rfl

end Reader

/-- What a reader makes of symbols that are an expression: a primary one becomes an operand wherever
one is expected, a conjunction is read since the last OR, and a disjunction is split at its last
OR. -/
def Rank.Accepts (symbols : List Symbol) (expression : Expression String) : Rank → Prop
  | .primary => ∀ pending outer,
    (Reader.expecting pending outer).run? symbols = some (.behind pending outer expression)
  -- The rule for AND is left-recursive, so nothing may be pending since the last OR.
  | .conjunction => ∀ disjunction? outer,
    (Reader.expecting ⟨disjunction?, none⟩ outer).run? symbols =
      some (.complete disjunction? expression outer)
  | .disjunction => ∃ disjunction? conjunction,
    joinedBehind .any disjunction? conjunction = expression ∧
      ∀ outer, (Reader.expecting {} outer).run? symbols =
        some (.complete disjunction? conjunction outer)

/-- The reader accepts what the grammar admits, and makes the same expression of it. -/
theorem Reads.accepts {rank : Rank} {symbols : List Symbol} {expression : Expression String}
    (reads : Reads rank symbols expression) : rank.Accepts symbols expression := by
  -- The induction is on the derivation; at each rank it says how the reader comes out of it.
  induction reads with
  | value name comparison bound => exact fun pending outer => rfl
  | columns left comparison right => exact fun pending outer => rfl
  | parentheses _ ih =>
    intro pending outer
    obtain ⟨disjunction?, conjunction, whole, inside⟩ := ih
    -- The level inside starts empty, and at its end the level around it goes on.
    rw [Reader.run?_cons rfl, Reader.run?_append, inside, Option.bind_some, Reader.run?_cons rfl,
      whole]
    rfl
  | factor _ ih => exact fun disjunction? outer => ih ⟨disjunction?, none⟩ outer
  | and _ _ first second =>
    -- The conjunction so far waits for its next factor, and the disjunction in front stays.
    intro disjunction? outer
    rw [Reader.run?_append, first, Option.bind_some, Reader.run?_cons rfl, second]
    rfl
  | term _ ih => exact ⟨none, _, rfl, fun outer => ih none outer⟩
  | or _ _ first second =>
    -- At an OR the conjunction is closed and joins the disjunction so far.
    obtain ⟨disjunction?, conjunction, whole, front⟩ := first
    refine ⟨some _, _, rfl, fun outer => ?_⟩
    rw [Reader.run?_append, front, Option.bind_some, Reader.run?_cons rfl, whole, second]

/-- A row of symbols is read in one way at most. -/
theorem Reads.unique {symbols : List Symbol} {first second : Expression String}
    (readsFirst : Reads .disjunction symbols first)
    (readsSecond : Reads .disjunction symbols second) : first = second := by
  obtain ⟨_, _, wholeFirst, atFirst⟩ := readsFirst.accepts
  obtain ⟨_, _, wholeSecond, atSecond⟩ := readsSecond.accepts
  -- The reader is a function, so both readings end in the same place.
  have same := (atFirst []).symm.trans (atSecond [])
  injection same with same
  injection same with sameDisjunction sameConjunction
  rw [← wholeFirst, ← wholeSecond, sameDisjunction, sameConjunction]

/-- The rank of expressions joined by a connective. -/
def Connective.rank : Connective → Rank
  | .all => .conjunction
  | .any => .disjunction

/-- A primary expression is one of any rank. -/
theorem Reads.ofPrimary {symbols : List Symbol} {single : Expression String}
    (reads : Reads .primary symbols single) (connective : Connective) :
    Reads connective.rank symbols single := by
  cases connective with
  | all => exact .factor reads
  | any => exact .term (.factor reads)

/-- A primary expression is joined behind expressions of the connective's rank. -/
theorem Reads.join {connective : Connective} {left right : List Symbol}
    {first second : Expression String} (readsLeft : Reads connective.rank left first)
    (readsRight : Reads .primary right second) :
    Reads connective.rank (left ++ .word connective :: right)
      (.joined connective first second) := by
  -- Behind an OR the grammar wants a conjunction, which one factor is.
  cases connective with
  | all => exact .and readsLeft readsRight
  | any => exact .or readsLeft (.factor readsRight)

/-- Expressions joined by a connective stand alone as well. -/
theorem Reads.toDisjunction {connective : Connective} {symbols : List Symbol}
    {expression : Expression String} (reads : Reads connective.rank symbols expression) :
    Reads .disjunction symbols expression := by
  cases connective with
  | all => exact .term reads
  | any => exact reads

end RowQuery
