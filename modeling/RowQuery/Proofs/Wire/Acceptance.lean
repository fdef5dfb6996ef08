import RowQuery.Proofs.Number.Overflow
import RowQuery.Proofs.Value.Conversion
import RowQuery.Wire.Parameter

/-!
Values that a parameter accepts and values that a field of the same kind accepts. Both sides check
integers against the width of the type. They part at single precision alone: a field refuses a
finite number beyond it, and a parameter sends what the number is narrowed to, which may be
infinity.
-/

namespace RowQuery.Wire

open Number

/-- A type of parameters and the type of fields that holds the same contents. -/
inductive Counterparts : WireType → FieldType → Prop
  | bool : Counterparts .bool .bool
  | int16 : Counterparts .int2 .int16
  | int32 : Counterparts .int4 .int32
  | int64 : Counterparts .int8 .int64
  | float32 : Counterparts .float4 .float32
  | float64 : Counterparts .float8 .float64
  | text : Counterparts .text .text
  | bytes : Counterparts .bytea .bytes
  | uuid : Counterparts .uuid .uuid
  | timestamp : Counterparts .timestamptz .timestamp
  | json : Counterparts .jsonb .json

/-- The bytes that an integer takes as a parameter of the type, if it may be one. -/
def WireType.integerWidth? : WireType → Option Nat
  | .int2 => some 2
  | .int4 => some 4
  | .int8 => some 8
  | _ => none

/-- An integer within the two's complement range of a number of bytes. -/
def FitsBytes (width : Nat) (integer : Int64) : Prop :=
  -2 ^ (8 * width - 1) ≤ integer.toInt ∧ integer.toInt < 2 ^ (8 * width - 1)

/-- A finite number beyond single precision, bound as a parameter of single precision. -/
def Overflows (parameter : WireType) (value : Value) : Prop :=
  parameter = .float4 ∧ ∃ number, value = .float number ∧ number.exceedsSingle = true

/-- Converting what a result holds does not change whether it holds something. -/
theorem isOk_map {ε α β : Type} (transform : α → β) (result : Except ε α) :
    (result.map transform).isOk = result.isOk := by
  cases result <;> rfl

/-- A result that depends on a check is there exactly if the check passes. -/
theorem isOk_ite_iff {ε α : Type} {passes : Prop} [Decidable passes] {content : α} {error : ε} :
    (if passes then Except.ok content else Except.error error).isOk = true ↔ passes := by
  split <;> simp_all [Except.isOk, Except.toBool]

/-- Exactly the integers that fit the bytes pass the check of a parameter. -/
theorem isOk_checkedInteger_iff (width : Nat) (integer : Int64) :
    (checkedInteger width integer.toInt).isOk = true ↔ FitsBytes width integer := by
  have bound : ((1 <<< (8 * width - 1) : Nat) : Int) = 2 ^ (8 * width - 1) := by
    rw [Nat.one_shiftLeft, Nat.cast_pow]
    rfl
  simp only [checkedInteger, FitsBytes, bound]
  generalize (2 : Int) ^ (8 * width - 1) = limit
  -- The check is made in two steps, above first.
  split
  · exact iff_of_false Bool.false_ne_true (by omega)
  · split
    · exact iff_of_false Bool.false_ne_true (by omega)
    · exact iff_of_true rfl (by omega)

/-- Every integer fits eight bytes. -/
theorem fitsBytes_eight (integer : Int64) : FitsBytes 8 integer :=
  ⟨integer.le_toInt, integer.toInt_lt⟩

/-- A parameter accepts exactly the integers that fit the bytes of its type. -/
theorem isOk_encode_int_iff {parameter : WireType} {width : Nat} (integer : Int64)
    (integral : parameter.integerWidth? = some width) :
    (encode (.int integer) parameter).isOk = true ↔ FitsBytes width integer := by
  -- Of the three types of integers the longest one checks nothing.
  cases parameter <;> cases integral
  case int2 => rw [encode, isOk_map, isOk_checkedInteger_iff]
  case int4 => rw [encode, isOk_map, isOk_checkedInteger_iff]
  case int8 => exact iff_of_true rfl (fitsBytes_eight integer)

/-- A field accepts exactly the integers that fit the bytes of its counterpart. -/
theorem isOk_ofValue_int_iff {parameter : WireType} {type : FieldType} {width : Nat}
    (paired : Counterparts parameter type) (integer : Int64)
    (integral : parameter.integerWidth? = some width) :
    (type.ofValue (.int integer)).isOk = true ↔ FitsBytes width integer := by
  -- Of the three types of integers the longest one checks nothing.
  cases paired <;> cases integral
  case int16 => exact isOk_ite_iff
  case int32 => exact isOk_ite_iff
  case int64 => exact iff_of_true rfl (fitsBytes_eight integer)

/-- A parameter and a field accept the same values, as long as nothing overflows. -/
theorem isOk_encode_eq {parameter : WireType} {type : FieldType} {value : Value}
    (paired : Counterparts parameter type) (calm : ¬ Overflows parameter value) :
    (encode value parameter).isOk = ((FieldType.optional type).ofValue value).isOk := by
  rcases eq_or_ne value .null with rfl | present
  · rfl
  rw [FieldType.ofValue_optional present, isOk_map]
  cases value with
  | null => contradiction
  | int integer =>
    cases integral : parameter.integerWidth? with
    | some width =>
      rw [Bool.eq_iff_iff, isOk_encode_int_iff integer integral,
        isOk_ofValue_int_iff paired integer integral]
    | none =>
      -- The other types take no integers.
      cases paired <;> first | contradiction | rfl
  | float number =>
    cases paired
    case float32 =>
      have within : number.exceedsSingle = false :=
        Bool.eq_false_iff.mpr fun beyond => calm ⟨rfl, number, rfl, beyond⟩
      rw [FieldType.ofValue, within]
      rfl
    all_goals rfl
  | _ => cases paired <;> rfl

/-- A field of single precision receives a number narrowed if it is not beyond single precision, and
refuses it otherwise. -/
theorem ofValue_optional_float32 (number : Binary64) :
    (FieldType.optional .float32).ofValue (.float number) =
      if number.exceedsSingle then .error ⟨"f32", "out-of-range float"⟩
      else .ok (some number.narrow) := by
  have present : Value.float number ≠ .null := nofun
  rw [FieldType.ofValue_optional present, FieldType.ofValue]
  split <;> rfl

/-- A number that overflows is accepted as a parameter, and refused by the parameter's
counterpart. -/
theorem isOk_of_overflows {parameter : WireType} {type : FieldType} {value : Value}
    (paired : Counterparts parameter type) (overflows : Overflows parameter value) :
    (encode value parameter).isOk = true ∧
      ((FieldType.optional type).ofValue value).isOk = false := by
  obtain ⟨rfl, number, rfl, beyond⟩ := overflows
  cases paired
  rw [ofValue_optional_float32, if_pos beyond]
  exact ⟨rfl, rfl⟩

/-- The double 1e300 is accepted as a parameter of single precision, and sent as infinity. A field
of single precision refuses it. -/
theorem overflow_is_sent_as_infinity :
    let number : Binary64 := ⟨0x7E37E43C8800759C⟩
    Counterparts .float4 .float32 ∧ number.isFinite = true ∧
      encode (.float number) .float4 = .ok (some [0x7F, 0x80, 0, 0]) ∧
      number.narrow.isInfinite = true ∧
      (FieldType.optional .float32).ofValue (.float number) =
        .error ⟨"f32", "out-of-range float"⟩ := by
  intro number
  -- Narrowing decides on both sides, and it is computed once.
  have infinite : number.narrow = ⟨0x7F800000⟩ := by decide +kernel
  refine ⟨.float32, by decide, ?_, ?_, ?_⟩
  · rw [encode, infinite]
    rfl
  · rw [infinite]
    rfl
  · rw [ofValue_optional_float32, if_pos (by decide)]

/-- A parameter accepts the values that its counterpart among fields accepts, and numbers that
overflow besides. Integers are accepted on either side exactly if they fit the bytes of the
parameter's type. A finite number that is not beyond single precision stays finite in a field of
single precision. Beyond it the field refuses the number. The parameter always sends what the number
is narrowed to, which is infinite exactly from the middle between the largest finite number and the
next power of two on. -/
theorem parameters_accept_as_fields {parameter : WireType} {type : FieldType}
    (paired : Counterparts parameter type) (value : Value) :
    ((encode value parameter).isOk = true ↔
      ((FieldType.optional type).ofValue value).isOk = true ∨ Overflows parameter value) ∧
    (∀ integer width, value = .int integer → parameter.integerWidth? = some width →
      ((encode value parameter).isOk = true ↔ FitsBytes width integer) ∧
      (((FieldType.optional type).ofValue value).isOk = true ↔ FitsBytes width integer)) ∧
    ∀ number, value = .float number → parameter = .float4 → number.isFinite = true →
      (number.exceedsSingle = false →
        (FieldType.optional .float32).ofValue value = .ok (some number.narrow) ∧
        number.narrow.isInfinite = false) ∧
      (number.exceedsSingle = true →
        (FieldType.optional .float32).ofValue value = .error ⟨"f32", "out-of-range float"⟩) ∧
      encode value parameter = .ok (some (bigEndian 4 number.narrow.word.toNat)) ∧
      (number.narrow.isInfinite = true ↔ Binary64.singleOverflow ≤ number.magnitude) := by
  refine ⟨?_, ?_, ?_⟩
  · -- A number that overflows is accepted whatever the field does; any other value on both sides
    -- alike.
    by_cases overflows : Overflows parameter value
    · exact iff_of_true (isOk_of_overflows paired overflows).1 (.inr overflows)
    · rw [isOk_encode_eq paired overflows, or_iff_left overflows]
  · rintro integer width rfl integral
    have present : Value.int integer ≠ .null := nofun
    rw [FieldType.ofValue_optional present, isOk_map]
    exact ⟨isOk_encode_int_iff integer integral, isOk_ofValue_int_iff paired integer integral⟩
  · rintro number rfl rfl finite
    rw [ofValue_optional_float32]
    refine ⟨fun within => ?_, fun beyond => if_pos beyond, rfl,
      Binary64.isInfinite_narrow_iff finite⟩
    rw [within]
    exact ⟨rfl, Binary64.isInfinite_narrow_of_within finite within⟩

/-- An integer just beyond two bytes is accepted on neither side. The double 1e300 is accepted as a
parameter of single precision, and refused by a field. -/
theorem parameters_accept_as_fields_at_limits :
    let number : Binary64 := ⟨0x7E37E43C8800759C⟩
    (encode (.int 32768) .int2).isOk = false ∧
      ((FieldType.optional .int16).ofValue (.int 32768)).isOk = false ∧
      (encode (.float number) .float4).isOk = true ∧
      (FieldType.optional .float32).ofValue (.float number) =
        .error ⟨"f32", "out-of-range float"⟩ := by
  intro number
  -- Two bytes count up to 32767.
  have beyond : ¬ FitsBytes 2 32768 := fun fits => absurd fits.2 (by decide)
  obtain ⟨sent, received⟩ :=
    (parameters_accept_as_fields .int16 (.int 32768)).2.1 32768 2 rfl rfl
  obtain ⟨accepted, -, narrowed⟩ := parameters_accept_as_fields .float32 (.float number)
  refine ⟨?_, ?_, accepted.mpr (.inr ⟨rfl, number, rfl, by decide⟩),
    (narrowed number rfl rfl (by decide)).2.1 (by decide)⟩
  · rwa [← Bool.not_eq_true, sent]
  · rwa [← Bool.not_eq_true, received]

end RowQuery.Wire
