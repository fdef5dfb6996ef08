import RowQuery.Value.FieldType
import RowQuery.Proofs.Number.Precision

/-!
Contents of fields that come back from their values. A value does not say everything about a field's
content: it has one NaN for those of single precision, which therefore count as the same number, and
one null for every absence.
-/

namespace RowQuery.FieldType

open Number

/-- Contents that are the same, where every NaN of single precision is the same number. -/
def Same : (type : FieldType) → type.Content → type.Content → Prop
  | .float32, left, right => left = right ∨ Binary32.isNaN left ∧ Binary32.isNaN right
  | .optional inner, some left, some right => inner.Same left right
  | _, left, right => left = right

/-- A content with the quiet NaN for every NaN of single precision. -/
def quieted : (type : FieldType) → type.Content → type.Content
  | .float32, content => Binary32.quieted content
  | .optional inner, some content => some (inner.quieted content)
  | _, content => content

/-- The quiet NaN makes no difference. -/
theorem same_quieted (type : FieldType) (content : type.Content) :
    type.Same (type.quieted content) content := by
  -- A NaN is in a content of single precision, or further inside.
  induction type with
  | float32 =>
    show Binary32.quieted content = content ∨ Binary32.isNaN (Binary32.quieted content) ∧
      Binary32.isNaN content
    cases nan : Binary32.isNaN content with
    | false => exact .inl (Binary32.quieted_of_ordinary nan)
    | true =>
      rw [Binary32.quieted, if_pos nan]
      exact .inr ⟨by decide, rfl⟩
  | optional inner ih =>
    cases content with
    | none => rfl
    | some content => exact ih content
  | _ => rfl

/-- An integer of 16 bits stays in its range when it is widened, and comes back. -/
theorem ofValue_toValue_int16 (content : Int16) :
    FieldType.int16.ofValue (FieldType.int16.toValue content) = .ok content := by
  -- The range that is checked is the one the content is in.
  have lower := content.le_toInt
  have upper := content.toInt_lt
  unfold toValue ofValue
  rw [Int16.toInt_toInt64, if_pos (by omega), Int16.toInt16_toInt64]

/-- An integer of 32 bits stays in its range when it is widened, and comes back. -/
theorem ofValue_toValue_int32 (content : Int32) :
    FieldType.int32.ofValue (FieldType.int32.toValue content) = .ok content := by
  -- The range that is checked is the one the content is in.
  have lower := content.le_toInt
  have upper := content.toInt_lt
  unfold toValue ofValue
  rw [Int32.toInt_toInt64, if_pos (by omega), Int32.toInt32_toInt64]

/-- A number of single precision comes back with the quiet NaN for every NaN. -/
theorem ofValue_toValue_float32 (content : Binary32) :
    FieldType.float32.ofValue (FieldType.float32.toValue content) = .ok content.quieted := by
  obtain ⟨within, narrowed⟩ := content.narrow_widen
  unfold toValue ofValue
  rw [within, narrowed]
  rfl

/-- A value other than null is converted to an optional type as to the type inside. -/
theorem ofValue_optional {inner : FieldType} {value : Value} (present : value ≠ .null) :
    (FieldType.optional inner).ofValue value = (inner.ofValue value).map some := by
  cases value with
  | null => contradiction
  | _ => rfl

/-- Whether a content of the type can have null for its value. -/
def canBeNull : FieldType → Bool
  | .value | .optional _ => true
  | _ => false

/-- Where no content can be null, no content is. -/
theorem toValue_ne_null {type : FieldType} (never : type.canBeNull = false)
    (content : type.Content) : type.toValue content ≠ .null := by
  intro null
  cases type with
  | value | optional => simp [canBeNull] at never
  | _ => simp [toValue] at null

/-- Whether every content of the type comes back from its value: it is not optional around a type
that can itself be null. -/
def isFaithful : FieldType → Bool
  | .optional inner => !inner.canBeNull && inner.isFaithful
  | _ => true

/-- A content of a faithful type comes back from its value. -/
theorem ofValue_toValue_of_isFaithful {type : FieldType} (faithful : type.isFaithful = true)
    (content : type.Content) :
    type.ofValue (type.toValue content) = .ok (type.quieted content) := by
  -- A type is faithful by what is inside of it, so the induction is on the type.
  induction type with
  | int16 => exact ofValue_toValue_int16 content
  | int32 => exact ofValue_toValue_int32 content
  | float32 => exact ofValue_toValue_float32 content
  | optional inner ih =>
    simp only [isFaithful, Bool.and_eq_true, Bool.not_eq_true'] at faithful
    obtain ⟨never, faithful⟩ := faithful
    cases content with
    | none => rfl
    | some content =>
      -- What is present does not look absent, so it is left to the type inside.
      rw [toValue, ofValue_optional (toValue_ne_null never content), ih faithful content]
      rfl
  | _ => rfl

end RowQuery.FieldType
