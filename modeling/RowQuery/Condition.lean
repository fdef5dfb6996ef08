import RowQuery.Column

/-! Conditions on rows: comparisons joined by groups of AND and OR. -/

namespace RowQuery

/-- How two sides are compared. -/
inductive Comparison where
  | equal
  | notEqual
  | less
  | lessOrEqual
  | greater
  | greaterOrEqual
  | like
  deriving DecidableEq, Repr

/-- The operator of a comparison. -/
def Comparison.sql : Comparison → String
  | .equal => "="
  | .notEqual => "!="
  | .less => "<"
  | .lessOrEqual => "<="
  | .greater => ">"
  | .greaterOrEqual => ">="
  | .like => "LIKE"

/-- How the members of a group are joined. -/
inductive Connective where
  | all
  | any
  deriving DecidableEq, Repr

/-- The word between the members of a group. -/
def Connective.sql : Connective → String
  | .all => "AND"
  | .any => "OR"

/-- A condition on rows. -/
inductive Condition where
  /-- A column compared with a value, which is bound at a placeholder. -/
  | value (column : Column) (comparison : Comparison) (bound : Value)
  /-- A column compared with a column. -/
  | columns (left : Column) (comparison : Comparison) (right : Column)
  /-- Conditions of which all or any must hold; without members it is no condition at all. -/
  | group (connective : Connective) (members : List Condition)

namespace Condition

/-- The conjunction of conditions. -/
def all (members : List Condition) : Condition := .group .all members

/-- The disjunction of conditions. -/
def any (members : List Condition) : Condition := .group .any members

/-- Both conditions. -/
def and (left right : Condition) : Condition := all [left, right]

/-- Either condition. -/
def or (left right : Condition) : Condition := any [left, right]

mutual

/-- The condition as it stands inside another one: a group is in parentheses or says nothing. -/
def render (qualified : Bool) : Condition → String
  | .value column comparison _ => column.render qualified ++ " " ++ comparison.sql ++ " ?"
  | .columns left comparison right =>
    left.render qualified ++ " " ++ comparison.sql ++ " " ++ right.render qualified
  | .group connective members =>
    let joined := (" " ++ connective.sql ++ " ").intercalate (renderMembers qualified members)
    -- There are no empty parentheses, however deep the groups in the group are.
    if joined = "" then "" else "( " ++ joined ++ " )"

/-- The members of a group that say something. -/
def renderMembers (qualified : Bool) : List Condition → List String
  | [] => []
  | member :: rest =>
    let text := render qualified member
    -- A member that says nothing gets no connective, either.
    if text = "" then renderMembers qualified rest else text :: renderMembers qualified rest

end

/-- The condition as it stands alone, without parentheses around a group. -/
def renderAlone (qualified : Bool) : Condition → String
  | .group connective members =>
    (" " ++ connective.sql ++ " ").intercalate (renderMembers qualified members)
  | comparison => comparison.render qualified

mutual

/-- The bound values, in the order of their placeholders. -/
def binds : Condition → List Value
  | .value _ _ bound => [bound]
  | .columns _ _ _ => []
  | .group _ members => bindsOfAll members

/-- The bound values of several conditions. -/
def bindsOfAll : List Condition → List Value
  | [] => []
  | member :: rest => member.binds ++ bindsOfAll rest

end

mutual

/-- The number of placeholders. -/
def placeholders : Condition → Nat
  | .value _ _ _ => 1
  | .columns _ _ _ => 0
  | .group _ members => placeholdersOfAll members

/-- The number of placeholders of several conditions. -/
def placeholdersOfAll : List Condition → Nat
  | [] => 0
  | member :: rest => member.placeholders + placeholdersOfAll rest

end

mutual

/-- Whether there is no comparison in the condition. -/
def isEmpty : Condition → Bool
  | .group _ members => allEmpty members
  | _ => false

/-- Whether there is no comparison in any of several conditions. -/
def allEmpty : List Condition → Bool
  | [] => true
  | member :: rest => member.isEmpty && allEmpty rest

end

mutual

/-- Equality of conditions, with bound values compared as values. -/
def equals : Condition → Condition → Bool
  | .value left comparison bound, .value left' comparison' bound' =>
    -- A NaN differs from itself, and with it the condition that binds it.
    left == left' && comparison == comparison' && bound == bound'
  | .columns left comparison right, .columns left' comparison' right' =>
    left == left' && comparison == comparison' && right == right'
  | .group connective members, .group connective' members' =>
    connective == connective' && equalMembers members members'
  | _, _ => false

/-- Equality of several conditions, one by one. -/
def equalMembers : List Condition → List Condition → Bool
  | [], [] => true
  | member :: rest, member' :: rest' => member.equals member' && equalMembers rest rest'
  | _, _ => false

end

instance : BEq Condition := ⟨equals⟩

/-- Wraps a condition in groups of one member, the connectives given from the inside out. -/
def nest (connectives : List Connective) (condition : Condition) : Condition :=
  connectives.foldl (fun inner connective => .group connective [inner]) condition

end Condition

/-- A typed column compared with a content of its type. -/
def TypedColumn.compare (typed : TypedColumn) (comparison : Comparison)
    (content : typed.type.Content) : Condition :=
  .value typed.column comparison (typed.type.toValue content)

/-- A typed column compared with a column of the same type. -/
def TypedColumn.compareColumn (typed : TypedColumn) (comparison : Comparison) (other : Column) :
    Condition :=
  .columns typed.column comparison other

end RowQuery
