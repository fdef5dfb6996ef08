import RowQuery.Proofs.Value.Persistence
import RowQuery.Statement.Basic

/-!
Statements kept as JSON. A statement is read back from the text it is kept as unless one of its
values is lost on the way. The object of the statement, the list of its values and the tag of a
value take three of the levels that a text may nest; the rest is left for the JSON in a value.
-/

namespace RowQuery

namespace Json

/-- Arrays inside one another, the given number of them around null. -/
def nestedArrays : Nat → Json.Ordered
  | 0 => ⟨.null, rfl⟩
  | count + 1 =>
    ⟨.array [(nestedArrays count).val], by
      simp [isOrdered, itemsOrdered, (nestedArrays count).property]⟩

/-- Arrays inside one another nest as many levels as there are arrays. -/
theorem depth_nestedArrays (count : Nat) : (nestedArrays count).val.depth = count := by
  induction count with
  | zero => rfl
  | succ count ih => simp [nestedArrays, depth, itemsDepth, ih]

/-- There is no number in arrays inside one another. -/
theorem isIntegral_nestedArrays (count : Nat) : (nestedArrays count).val.isIntegral = true := by
  induction count with
  | zero => rfl
  | succ count ih => simp [nestedArrays, isIntegral, itemsIntegral, ih]

end Json

namespace Statement

/-- The number of levels that JSON in a bound value may nest. -/
def contentLimit : Nat := Json.nestingLimit - 3

/-- Bound values are read from the shape of their list one by one. -/
theorem bindsOfNode?_itemShapes (levels : Nat) (binds : List Value) :
    bindsOfNode? (levels + 1) (.array (Json.itemShapes (binds.map Value.toJson))) =
      binds.mapM fun value => Value.ofNode? levels value.toJson.shape := by
  rw [Json.itemShapes_eq_map, List.map_map]
  simp only [bindsOfNode?, List.mapM_map]
  rfl

/-- A statement is read from the shape of its JSON as its text and the values that are read. -/
theorem ofNode?_toJson (levels : Nat) (statement : Statement) :
    ofNode? (levels + 2) statement.toJson.shape =
      (statement.binds.mapM fun value => Value.ofNode? levels value.toJson.shape).map
        fun binds => ⟨statement.sql, binds⟩ := by
  have binds := bindsOfNode?_itemShapes levels statement.binds
  have shape : statement.toJson.shape = .object [(some "sql", .string (some statement.sql)),
      (some "binds", .array (Json.itemShapes (statement.binds.map Value.toJson)))] := rfl
  rw [shape]
  generalize Json.itemShapes (statement.binds.map Value.toJson) = items at binds
  -- Each of the two members is found under its name.
  have sql : membersNamed "sql" [(some "sql", .string (some statement.sql)),
      (some "binds", .array items)] = [.string (some statement.sql)] := rfl
  have listed : membersNamed "binds" [(some "sql", .string (some statement.sql)),
      (some "binds", .array items)] = [.array items] := rfl
  simp only [ofNode?, List.all_cons, Option.isSome_some, List.all_nil, Bool.and_self, if_true, sql,
    listed, binds, Option.bind_eq_bind, Option.bind_some, Option.map_eq_bind]
  rfl

/-- What is read of a kept statement is its text and what is read of its values. -/
theorem ofPersisted?_eq (statement : Statement) :
    ofPersisted? statement.persisted =
      (statement.binds.mapM fun value => Value.ofNode? (contentLimit + 1) value.toJson.shape).map
        fun binds => ⟨statement.sql, binds⟩ := by
  unfold ofPersisted? persisted
  rw [JsonNode.ofText?_text, Option.bind_eq_bind, Option.bind_some]
  -- The object and the list take two of the levels, and the tag of a value takes the third.
  exact ofNode?_toJson (contentLimit + 1) statement

/-- A statement all of whose values return is read back from the text it is kept as. -/
theorem ofPersisted?_persisted {statement : Statement}
    (persist : ∀ value ∈ statement.binds, value.Persists contentLimit) :
    ofPersisted? statement.persisted = some statement := by
  -- Values are read one level inside the list of them, and that is what the limit leaves.
  have binds : statement.binds.mapM (fun value =>
      Value.ofNode? (contentLimit + 1) value.toJson.shape) = some statement.binds := by
    apply mapM_of_returns
    intro value bound
    exact Value.ofNode?_toJson (by decide) (persist value bound)
  rw [ofPersisted?_eq, binds]
  rfl

/-- A statement one of whose values is lost is not read back. -/
theorem ofPersisted?_persisted_of_lost {statement : Statement} {value : Value}
    (bound : value ∈ statement.binds)
    (lost : Value.ofNode? (contentLimit + 1) value.toJson.shape = none) :
    ofPersisted? statement.persisted = none := by
  -- One value that is lost takes the whole list with it.
  have binds : statement.binds.mapM (fun value =>
      Value.ofNode? (contentLimit + 1) value.toJson.shape) = none := mapM_of_lost bound lost
  rw [ofPersisted?_eq, binds]
  rfl

/-- Statements return from the text they are kept as, if they bind no floats, no leap seconds, and
only JSON of integers that leaves the reader the three levels around it; no other such statement is
kept as the same text. JSON that nests deeper is not read back, nor is a float
that is infinite or a NaN, whatever else is bound. -/
theorem statements_return (statement : Statement) :
    ((∀ value ∈ statement.binds, value.Persists contentLimit) →
      ofPersisted? statement.persisted = some statement ∧
      ∀ other : Statement, (∀ value ∈ other.binds, value.Persists contentLimit) →
        other.persisted = statement.persisted → other = statement) ∧
    (∀ content, .json content ∈ statement.binds → contentLimit < content.val.depth →
      ofPersisted? statement.persisted = none) ∧
    ∀ number, .float number ∈ statement.binds → number.isFinite = false →
      ofPersisted? statement.persisted = none := by
  refine ⟨?_, ?_, ?_⟩
  · intro persist
    have returns := ofPersisted?_persisted persist
    refine ⟨returns, ?_⟩
    intro other otherPersist same
    -- Reading the one text gives back both statements.
    have otherReturns := ofPersisted?_persisted otherPersist
    rw [same, returns] at otherReturns
    exact (Option.some.inj otherReturns).symm
  · intro content bound deep
    exact ofPersisted?_persisted_of_lost bound (Value.ofNode?_toJson_of_deep deep)
  · intro number bound endless
    exact ofPersisted?_persisted_of_lost bound (Value.ofNode?_toJson_of_not_isFinite endless _)

/-- Arrays that the reader takes on their own, two levels short of its limit, are lost when a
statement binds them. -/
theorem deep_content_is_lost :
    let arrays := Json.nestedArrays 125
    arrays.val.isIntegral = true ∧ arrays.val.depth < Json.nestingLimit ∧
      Json.ofText? Json.nestingLimit arrays.val.text = some arrays.val ∧
      ofPersisted? (⟨"", [.json arrays]⟩ : Statement).persisted = none := by
  intro arrays
  have integral : arrays.val.isIntegral = true := Json.isIntegral_nestedArrays 125
  -- The depth is known by counting, so the arrays are never built.
  have depth : arrays.val.depth = 125 := Json.depth_nestedArrays 125
  have below : arrays.val.depth < Json.nestingLimit := by
    rw [depth]
    decide
  have deep : contentLimit < arrays.val.depth := by
    rw [depth]
    decide
  have alone := Json.ofText?_text integral (Nat.le_of_lt below)
  exact ⟨integral, below, alone, ofPersisted?_persisted_of_lost List.mem_cons_self
    (Value.ofNode?_toJson_of_deep deep)⟩

/-- A statement that binds a value of every kind that returns. -/
def ofEveryKind : Statement where
  sql := "select \"a\\b\" from t where x = ?\n"
  binds := [.null, .json ⟨.null, rfl⟩, .bool true, .int Int64.minValue, .text "Null\x00\"é😀",
    .bytes [0, 255], .uuid .nil, .timestamp ⟨-62198755200, 1000, by decide, by decide⟩,
    .json ⟨.object [("a", .array [.ofInteger ⟨0xFFFFFFFFFFFFFFFF, by decide⟩]), ("b", .string "")],
      by decide⟩, .json (Json.nestedArrays 124)]

/-- A value of every kind returns from a statement that binds them all, JSON at the limit included;
one level more is lost, and so is a NaN. -/
theorem statements_return_of_every_kind :
    ofPersisted? ofEveryKind.persisted = some ofEveryKind ∧
      ofPersisted? (⟨"", [.null, .json (Json.nestedArrays 125)]⟩ : Statement).persisted = none ∧
      ofPersisted? (⟨"", [.json Json.null, .float .nan]⟩ : Statement).persisted = none := by
  -- Most kinds return without a condition; moments and JSON are looked at on their own.
  have persist : ∀ value ∈ ofEveryKind.binds, value.Persists contentLimit := by
    intro value bound
    simp only [ofEveryKind, List.mem_cons, List.not_mem_nil, or_false] at bound
    rcases bound with rfl | rfl | rfl | rfl | rfl | rfl | rfl | moment | object | nested
    · trivial
    · exact ⟨rfl, by decide⟩
    · trivial
    · trivial
    · trivial
    · trivial
    · trivial
    · rw [moment]
      show 1000 < 1000000000
      decide
    · rw [object]
      exact ⟨by decide, by decide⟩
    · rw [nested]
      refine ⟨Json.isIntegral_nestedArrays 124, ?_⟩
      rw [Json.depth_nestedArrays]
      decide
  refine ⟨((statements_return ofEveryKind).1 persist).1, ?_, ?_⟩
  · apply (statements_return _).2.1 (Json.nestedArrays 125)
    · simp
    · rw [Json.depth_nestedArrays]
      decide
  · apply (statements_return _).2.2 .nan
    · simp
    · decide

end Statement

end RowQuery
