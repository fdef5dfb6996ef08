import RowQuery.Number.Binary64

/-! JSON values as they are written, with the members of an object in any order. -/

namespace RowQuery

open Number

/-- The integers a JSON number holds exactly: those of a signed or an unsigned 64-bit word. -/
abbrev JsonInteger :=
  { integer : Int // -0x8000000000000000 ≤ integer ∧ integer < 0x10000000000000000 }

/-- The doubles that are JSON numbers: those that are neither infinite nor a NaN. -/
abbrev JsonReal :=
  { number : Binary64 // number.isFinite = true }

/-- A double as a JSON number, if it is one. -/
def JsonReal.ofDouble? (number : Binary64) : Option JsonReal :=
  if finite : number.isFinite = true then some ⟨number, finite⟩ else none

/-- A JSON number: an integer of word size, or else a double. -/
inductive JsonNumber where
  | integer (value : JsonInteger)
  | real (value : JsonReal)
  deriving DecidableEq

/-- A JSON value. -/
inductive Json where
  | null
  | bool (value : Bool)
  | number (value : JsonNumber)
  | string (text : String)
  | array (items : List Json)
  | object (members : List (String × Json))
  deriving Inhabited

/-- Numbers are equal within one kind; an integer never equals a double. -/
def JsonNumber.equals : JsonNumber → JsonNumber → Bool
  | .integer left, .integer right => left == right
  | .real left, .real right => left.val == right.val
  | _, _ => false

namespace Json

/-- An integer that fits, as a JSON number. -/
def ofInteger (integer : JsonInteger) : Json :=
  .number (.integer integer)

/-- A natural number of word size, as a JSON number. -/
def ofNatural (natural : Nat) (fits : natural < 0x10000000000000000) : Json :=
  ofInteger ⟨natural, by omega, by omega⟩

mutual

/-- Equality of values, member by member. -/
def equals : Json → Json → Bool
  | .null, .null => true
  | .bool left, .bool right => left == right
  | .number left, .number right => left.equals right
  | .string left, .string right => left == right
  | .array left, .array right => equalItems left right
  | .object left, .object right => equalMembers left right
  | _, _ => false

/-- Equality of arrays, item by item. -/
def equalItems : List Json → List Json → Bool
  | [], [] => true
  | left :: lefts, right :: rights => left.equals right && equalItems lefts rights
  | _, _ => false

/-- Equality of objects, member by member in the order that they have. -/
def equalMembers : List (String × Json) → List (String × Json) → Bool
  | [], [] => true
  | (leftKey, left) :: lefts, (rightKey, right) :: rights =>
    leftKey == rightKey && left.equals right && equalMembers lefts rights
  | _, _ => false

end

instance : BEq Json := ⟨equals⟩

end Json

end RowQuery
