import Mathlib.Data.List.Forall2
import RowQuery.Value.Basic

/-!
Equality of values. A NaN differs from itself and both zeros are equal, so equality is reflexive
exactly on the values other than a NaN, and equal values are none. There is no NaN in JSON.
-/

namespace RowQuery

open Number

namespace Number.Binary64

/-- A number equals itself exactly if it is not a NaN. -/
theorem beq_self_iff (number : Binary64) : (number == number) = true ↔ number.isNaN = false := by
  change number.equals number = true ↔ _
  simp [equals]

/-- A NaN equals no number. -/
theorem isNaN_of_beq {left right : Binary64} (same : (left == right) = true) :
    left.isNaN = false := by
  change left.equals right = true at same
  simp only [equals, Bool.and_eq_true, Bool.not_eq_true'] at same
  exact same.1.1

end Number.Binary64

/-- A JSON number equals itself, for it is not a NaN. -/
theorem JsonNumber.equals_self (number : JsonNumber) : number.equals number = true := by
  cases number with
  | integer value => simp [equals]
  | real value =>
    obtain ⟨number, finite⟩ := value
    -- The magnitude of a finite number is below that of every NaN.
    have ordinary : number.isNaN = false := by
      simp only [Binary64.isFinite, Binary64.isNaN, decide_eq_true_eq, decide_eq_false_iff_not]
        at finite ⊢
      omega
    exact number.beq_self_iff.mpr ordinary

namespace Json

mutual

/-- A JSON value equals itself. -/
theorem equals_self (json : Json) : json.equals json = true := by
  -- Arrays and objects go by what they hold.
  cases json with
  | null => rw [equals]
  | bool value => simp [equals]
  | number number =>
    rw [equals]
    exact number.equals_self
  | string text => simp [equals]
  | array items =>
    rw [equals]
    exact equalItems_self items
  | object members =>
    rw [equals]
    exact equalMembers_self members

/-- An array equals itself. -/
theorem equalItems_self (items : List Json) : equalItems items items = true := by
  cases items with
  | nil => rw [equalItems]
  | cons item rest => rw [equalItems, equals_self item, equalItems_self rest, Bool.and_self]

/-- An object equals itself. -/
theorem equalMembers_self (members : List (String × Json)) :
    equalMembers members members = true := by
  match members with
  | [] => rw [equalMembers]
  | (key, value) :: rest =>
    rw [equalMembers, beq_self_eq_true, equals_self value, equalMembers_self rest, Bool.and_self,
      Bool.and_self]

end

end Json

namespace Value

/-- Whether a value is a NaN. -/
def isNaN : Value → Bool
  | .float number => number.isNaN
  | _ => false

/-- A value equals itself exactly if it is not a NaN. -/
theorem beq_self_iff (value : Value) : (value == value) = true ↔ value.isNaN = false := by
  change value.equals value = true ↔ _
  -- Only floats can differ from themselves.
  cases value with
  | float number =>
    rw [equals, isNaN]
    exact number.beq_self_iff
  | json json => exact iff_of_true json.val.equals_self rfl
  | _ => simp [equals, isNaN]

/-- A value that equals another one is not a NaN. -/
theorem isNaN_of_beq {left right : Value} (same : (left == right) = true) :
    left.isNaN = false := by
  change left.equals right = true at same
  -- Values of other kinds are no floats.
  cases left with
  | float number =>
    cases right with
    | float other =>
      rw [equals] at same
      exact Binary64.isNaN_of_beq same
    | _ => simp [equals] at same
  | _ => rfl

end Value

/-- Lists are equal exactly if their items are, one by one. -/
theorem beq_iff_forall₂ {α : Type} [BEq α] {left right : List α} :
    (left == right) = true ↔ List.Forall₂ (fun one other => (one == other) = true) left right := by
  -- Lists of different lengths are neither equal nor related.
  induction left generalizing right with
  | nil => cases right <;> simp
  | cons one rest ih =>
    cases right with
    | nil => simp
    | cons other others =>
      rw [List.cons_beq_cons, Bool.and_eq_true, ih, List.forall₂_cons]

end RowQuery
