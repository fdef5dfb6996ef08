import RowQuery.Proofs.Value.Conversion

/-!
The values that a type of fields accepts. Without single precision, which rounds, they are the
values of the type's contents, and each is converted to the content that it is the value of; only
what is present in an optional type and has the value null comes back as absent. Every other value
is refused under the name of the type, with its own kind or, if it is an integer beyond a narrow
type, as out of range.
-/

namespace RowQuery.FieldType

/-- The type inside all optional ones. -/
def base : FieldType → FieldType
  | .optional inner => inner.base
  | type => type

/-- Whether a content is the null of its type: the value null, nothing in an optional type, or the
null of the type inside. -/
def isNull : (type : FieldType) → type.Content → Bool
  | .value, content => content.isNull
  | .optional _, none => true
  | .optional inner, some content => inner.isNull content
  | _, _ => false

/-- What a content is after it has been a value. In an optional type the null of the type inside
cannot be told from nothing. -/
def returned : (type : FieldType) → type.Content → type.Content
  | .optional inner, some content => if inner.isNull content then none else some content
  | _, content => content

/-- The bounds of a narrow type of integers: the least one in it, and the least one above it. -/
def integerRange? : FieldType → Option (Int × Int)
  | .int16 => some (-0x8000, 0x8000)
  | .int32 => some (-0x80000000, 0x80000000)
  | _ => none

/-- An integer outside the range of a narrow type, which may be optional. -/
def IsBeyond (type : FieldType) (value : Value) : Prop :=
  ∃ integer least above, value = .int integer ∧
    type.base.integerRange? = some (least, above) ∧
    (integer.toInt < least ∨ above ≤ integer.toInt)

/-- An optional type goes by the name of the type inside. -/
theorem shortName_base (type : FieldType) : type.base.shortName = type.shortName := by
  induction type with
  | optional inner ih => exact ih
  | _ => rfl

/-- A content has the value null exactly if it is the null of its type. -/
theorem toValue_eq_null_iff {type : FieldType} {content : type.Content} :
    type.toValue content = .null ↔ type.isNull content = true := by
  induction type with
  | value =>
    -- The content is the value itself.
    show content = .null ↔ Value.isNull content = true
    cases content <;> simp [Value.isNull]
  | optional inner ih =>
    cases content with
    | none => exact iff_of_true rfl rfl
    | some content => exact ih
  | _ => exact iff_of_false nofun Bool.false_ne_true

/-- What is present in an optional type comes back, unless it is the null of the type inside. -/
theorem returned_some {inner : FieldType} (content : inner.Content) :
    (FieldType.optional inner).returned (some content) =
      if inner.isNull content then none else some content :=
  rfl

/-- A content with a value other than null comes back as it is. -/
theorem returned_of_toValue_ne_null {type : FieldType} {content : type.Content}
    (present : type.toValue content ≠ .null) : type.returned content = content := by
  -- Only an optional type can lose its content, namely to null.
  cases type with
  | optional inner =>
    cases content with
    | none => rfl
    | some content =>
      have noNull : ¬ inner.isNull content = true := fun null =>
        present (toValue_eq_null_iff.mpr null)
      exact if_neg noNull
  | _ => rfl

/-- Apart from single precision, a content is converted to its value and comes back. -/
theorem ofValue_toValue {type : FieldType} (exact : type.base ≠ .float32)
    (content : type.Content) :
    type.ofValue (type.toValue content) = .ok (type.returned content) := by
  induction type with
  | int16 => exact ofValue_toValue_int16 content
  | int32 => exact ofValue_toValue_int32 content
  | float32 => contradiction
  | optional inner ih =>
    cases content with
    | none => rfl
    | some content =>
      rw [toValue, returned_some]
      by_cases absent : inner.toValue content = .null
      · -- Every optional type reads null as absent.
        rw [absent, if_pos (toValue_eq_null_iff.mp absent)]
        rfl
      · -- Anything else is left to the type inside, where it comes back as it is.
        rw [if_neg (absent ∘ toValue_eq_null_iff.mpr), ofValue_optional absent, ih exact content,
          returned_of_toValue_ne_null absent]
        rfl
  | _ => rfl

/-- An integer within 16 bits is not changed when it is narrowed to them. -/
theorem toInt64_toInt16 {integer : Int64}
    (within : -0x8000 ≤ integer.toInt ∧ integer.toInt < 0x8000) :
    integer.toInt16.toInt64 = integer := by
  rw [← Int64.toInt_inj, Int16.toInt_toInt64, Int64.toInt_toInt16]
  exact Int.bmod_eq_of_le (by simp; omega) (by simp; omega)

/-- An integer within 32 bits is not changed when it is narrowed to them. -/
theorem toInt64_toInt32 {integer : Int64}
    (within : -0x80000000 ≤ integer.toInt ∧ integer.toInt < 0x80000000) :
    integer.toInt32.toInt64 = integer := by
  rw [← Int64.toInt_inj, Int32.toInt_toInt64, Int64.toInt_toInt32]
  exact Int.bmod_eq_of_le (by simp; omega) (by simp; omega)

/-- What becomes of a value in a type of fields: it is converted to a content with that value, or it
is an integer beyond the type, or it is of a kind that the type does not hold. -/
inductive Becomes (type : FieldType) (value : Value) : Except TypeMismatch type.Content → Prop where
  | content {content : type.Content} :
    ¬ type.IsBeyond value → type.toValue content = value → Becomes type value (.ok content)
  | beyond :
    type.IsBeyond value → Becomes type value (.error ⟨type.shortName, "out-of-range int"⟩)
  | kind :
    ¬ type.IsBeyond value → Becomes type value (.error ⟨type.shortName, value.kind⟩)

namespace Becomes

variable {type : FieldType} {value : Value}

/-- Only integers are beyond a type. -/
theorem not_isBeyond_of_ne_int (other : ∀ integer, value ≠ .int integer) :
    ¬ type.IsBeyond value := by
  rintro ⟨integer, least, above, same, -⟩
  exact other integer same

/-- Nothing is beyond a type that is not narrow. -/
theorem not_isBeyond_of_wide (wide : type.base.integerRange? = none) : ¬ type.IsBeyond value := by
  rintro ⟨integer, least, above, -, narrow, -⟩
  rw [wide] at narrow
  contradiction

/-- An integer that is checked against the range of a narrow type becomes a content within it, and
is beyond the type outside. -/
theorem ofRange {integer : Int64} {least above : Int} {content : type.Content}
    (narrow : type.base.integerRange? = some (least, above))
    (same : least ≤ integer.toInt ∧ integer.toInt < above → type.toValue content = .int integer) :
    Becomes type (.int integer)
      (if least ≤ integer.toInt ∧ integer.toInt < above then .ok content
        else .error ⟨type.shortName, "out-of-range int"⟩) := by
  -- Within the range no bound is broken, and outside the broken one is named.
  split
  · rename_i within
    refine .content ?_ (same within)
    rintro ⟨_, _, _, ⟨⟩, range, outside⟩
    rw [narrow] at range
    obtain ⟨rfl, rfl⟩ := Prod.mk.inj (Option.some.inj range)
    omega
  · rename_i outside
    exact .beyond ⟨integer, least, above, rfl, narrow, by omega⟩

/-- What becomes of a value inside an optional type becomes of it in that type. -/
theorem optional {inner : FieldType} {result : Except TypeMismatch inner.Content}
    (inside : Becomes inner value result) : Becomes (.optional inner) value (result.map some) := by
  -- What a value is beyond, and what its kind fits, is asked of the type inside.
  cases inside with
  | content within same => exact .content within same
  | beyond outside => exact .beyond outside
  | kind within => exact .kind within

end Becomes

/-- Apart from single precision, this is what becomes of a value. -/
theorem becomes_ofValue {type : FieldType} (exact : type.base ≠ .float32) (value : Value) :
    Becomes type value (type.ofValue value) := by
  -- Every type refuses the kinds that it does not hold. Beyond that, narrow types check integers,
  -- and optional types ask the type inside.
  induction type with
  | float32 => contradiction
  | int16 =>
    cases value with
    | int integer => exact .ofRange rfl fun within => by rw [toValue, toInt64_toInt16 within]
    | _ => exact .kind (Becomes.not_isBeyond_of_ne_int (by simp))
  | int32 =>
    cases value with
    | int integer => exact .ofRange rfl fun within => by rw [toValue, toInt64_toInt32 within]
    | _ => exact .kind (Becomes.not_isBeyond_of_ne_int (by simp))
  | optional inner ih =>
    rcases eq_or_ne value .null with rfl | present
    · exact .content (Becomes.not_isBeyond_of_ne_int (by simp)) rfl
    · rw [ofValue_optional present]
      exact (ih exact).optional
  | value => exact .content (Becomes.not_isBeyond_of_wide rfl) rfl
  | _ =>
    cases value <;> first
      | exact .content (Becomes.not_isBeyond_of_wide rfl) rfl
      | exact .kind (Becomes.not_isBeyond_of_wide rfl)

/-- The values that a type accepts. Apart from single precision, every content comes back from its
value, but for what is present in an optional type with the value null, which comes back absent; and
a value is converted to no content but one that it is the value of. All other values are refused
under the name of the type inside all optional ones: integers beyond a narrow type as out of range,
and everything else by its kind. An optional type, of single precision or not, reads null as absent,
and converts any other value as the type inside does. -/
theorem ofValue_inverts_toValue (type : FieldType) :
    (type.base ≠ .float32 →
      (∀ content : type.Content,
        type.ofValue (type.toValue content) = .ok (type.returned content)) ∧
      (∀ value content, type.ofValue value = .ok content → type.toValue content = value) ∧
      (∀ value mismatch, type.ofValue value = .error mismatch →
        mismatch.expected = type.base.shortName ∧
        (mismatch.found = "out-of-range int" ↔ type.IsBeyond value) ∧
        (¬ type.IsBeyond value → mismatch.found = value.kind)) ∧
      ∀ value, type.IsBeyond value → ∃ mismatch, type.ofValue value = .error mismatch) ∧
    (FieldType.optional type).ofValue .null = .ok none ∧
    ∀ value, value ≠ .null →
      (FieldType.optional type).ofValue value = (type.ofValue value).map some := by
  refine ⟨fun exact => ⟨ofValue_toValue exact, ?_, ?_, ?_⟩, rfl, fun _ => ofValue_optional⟩
  · intro value content converted
    have becomes := becomes_ofValue exact value
    rw [converted] at becomes
    cases becomes with
    | content _ same => exact same
  · intro value mismatch refused
    have becomes := becomes_ofValue exact value
    rw [refused] at becomes
    rw [shortName_base]
    cases becomes with
    | beyond outside => exact ⟨rfl, iff_of_true rfl outside, fun within => absurd outside within⟩
    | kind within =>
      -- No kind goes by that name.
      have other : value.kind ≠ "out-of-range int" := by cases value <;> simp [Value.kind]
      exact ⟨rfl, iff_of_false other within, fun _ => rfl⟩
  · intro value outside
    have becomes := becomes_ofValue exact value
    cases result : type.ofValue value with
    | error mismatch => exact ⟨mismatch, rfl⟩
    | ok content =>
      rw [result] at becomes
      cases becomes with
      | content within _ => exact absurd outside within

/-- In a doubly optional type of 16 bits, what is present without anything in it comes back absent,
and an integer of 17 bits is refused under the name of the type inside. -/
theorem ofValue_inverts_toValue_of_nested_optional :
    let type : FieldType := .optional (.optional .int16)
    type.base ≠ .float32 ∧
      type.ofValue (type.toValue (some none)) = .ok none ∧
      type.ofValue (type.toValue (some (some (-0x8000 : Int16)))) =
        .ok (some (some (-0x8000 : Int16))) ∧
      type.IsBeyond (.int 0x8000) ∧
      ∃ mismatch, type.ofValue (.int 0x8000) = .error mismatch ∧ mismatch.expected = "i16" ∧
        mismatch.found = "out-of-range int" := by
  intro type
  have exact : type.base ≠ .float32 := by decide
  obtain ⟨returns, -, refused, beyond⟩ := (ofValue_inverts_toValue type).1 exact
  -- The range of 16 bits ends just below.
  have outside : type.IsBeyond (.int 0x8000) :=
    ⟨0x8000, -0x8000, 0x8000, rfl, rfl, .inr (by decide)⟩
  obtain ⟨mismatch, failed⟩ := beyond _ outside
  obtain ⟨expected, found, -⟩ := refused _ _ failed
  exact ⟨exact, returns (some none), returns (some (some (-0x8000 : Int16))), outside, mismatch,
    failed, expected, found.mpr outside⟩

end RowQuery.FieldType
