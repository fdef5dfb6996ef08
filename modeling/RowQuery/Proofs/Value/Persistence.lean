import RowQuery.Proofs.Json.Reading
import RowQuery.Proofs.Time.Reading
import RowQuery.Value.Persistence

/-!
Values kept as JSON. A value is read back from the shape that its JSON has: the kind is told by the
tag, and the content by a reader of that kind. What cannot be told apart in JSON does not return:
floats that are no numbers, and JSON that nests deeper than the reader goes.
-/

namespace RowQuery

open Text Time

namespace Uuid

/-- The groups of digits side by side are all of them. -/
theorem filter_hyphenate {digits : List Char} (plain : ∀ digit ∈ digits, digit ≠ '-') :
    (hyphenate digits).filter (· ≠ '-') = digits := by
  have kept : ∀ part : List Char, (∀ digit ∈ part, digit ∈ digits) →
      part.filter (· ≠ '-') = part := by
    intro part inside
    rw [List.filter_eq_self]
    intro digit member
    simpa using plain digit (inside digit member)
  have first := kept (digits.take 8) fun _ => List.mem_of_mem_take
  have group : ∀ start,
      ((digits.drop start).take 4).filter (· ≠ '-') = (digits.drop start).take 4 :=
    fun start => kept _ fun _ member => List.mem_of_mem_drop (List.mem_of_mem_take member)
  have last := kept (digits.drop 20) fun _ => List.mem_of_mem_drop
  have hyphen : ∀ rest : List Char,
      ('-' :: rest).filter (· ≠ '-') = rest.filter (· ≠ '-') := fun rest => by simp
  unfold hyphenate
  simp only [List.filter_append, hyphen, first, group, last, List.append_assoc, List.cons_append]
  -- Each group is followed by the digits behind it.
  have join : ∀ start, (digits.drop start).take 4 ++ digits.drop (start + 4) =
      digits.drop start := by
    intro start
    rw [← List.drop_drop, List.take_append_drop]
  rw [join 16, join 12, join 8, List.take_append_drop]

/-- The text of an identifier is read as that identifier. -/
theorem ofText?_text (uuid : Uuid) : ofText? uuid.text = some uuid := by
  have plain : ∀ digit ∈ hexOfBytes uuid.bytes, digit ≠ '-' := ne_hyphen_of_mem_hexOfBytes
  have count : (hexOfBytes uuid.bytes).length = 32 := by rw [length_hexOfBytes, uuid.size]
  have length : (hyphenate (hexOfBytes uuid.bytes)).length = 36 := by simp [hyphenate, count]
  have digits : digits? (hyphenate (hexOfBytes uuid.bytes)) = some (hexOfBytes uuid.bytes) := by
    -- A text of this length is one with hyphens.
    unfold digits? dehyphenate?
    rw [length]
    simp only [filter_hyphenate plain, count]
    simp
  unfold ofText? text
  rw [String.toList_ofList, digits]
  simp [bytesOfHex?_hexOfBytes, ofBytes?, uuid.size]

end Uuid

/-- Items that are each read as themselves are read as the list of them. -/
theorem mapM_of_returns {Item : Type} {read : Item → Option Item} {items : List Item}
    (returns : ∀ item ∈ items, read item = some item) : items.mapM read = some items := by
  -- Every item is read, so that the whole list is.
  induction items with
  | nil => rfl
  | cons item rest ih =>
    have first := returns item List.mem_cons_self
    have others := ih fun other inside => returns other (List.mem_cons_of_mem _ inside)
    rw [List.mapM_cons, first, others]
    rfl

/-- One item that is not read leaves nothing of the list. -/
theorem mapM_of_lost {Item Read : Type} {read : Item → Option Read} {items : List Item}
    {item : Item} (member : item ∈ items) (lost : read item = none) : items.mapM read = none := by
  induction items with
  | nil => contradiction
  | cons first rest ih =>
    rw [List.mapM_cons]
    rcases List.mem_cons.mp member with rfl | inside
    · rw [lost]
      rfl
    · -- Whatever the first one is read as, the others are not read.
      rw [ih inside]
      cases read first <;> rfl

/-- The shapes of items are those of each item. -/
theorem Json.itemShapes_eq_map (items : List Json) : itemShapes items = items.map shape := by
  induction items with
  | nil => rfl
  | cons item rest ih => rw [itemShapes, ih, List.map_cons]

namespace Value

/-- Whether a value returns from its JSON, read to the given number of levels below its tag. -/
def Persists (levels : Nat) : Value → Prop
  | .float _ => False
  | .timestamp moment => moment.nanoseconds < 1000000000
  | .json content => content.val.isIntegral = true ∧ content.val.depth ≤ levels
  | _ => True

/-- A value other than null has a shape of one member, its content under its tag. -/
theorem shape_toJson {value : Value} (present : value ≠ .null) :
    value.toJson.shape = .object [(some value.tag, value.contentToJson.shape)] := by
  cases value with
  | null => contradiction
  | _ => rfl

/-- A word-sized integer is read from its content. -/
theorem intOfNumber?_toInt (value : Int64)
    (fits : -0x8000000000000000 ≤ value.toInt ∧ value.toInt < 0x10000000000000000) :
    intOfNumber? (.integer ⟨value.toInt, fits⟩) = some value := by
  have below : value.toInt < 0x8000000000000000 := value.toInt_lt
  show (if value.toInt < 0x8000000000000000 then _ else _) = _
  rw [if_pos below, Int64.ofInt_toInt]

/-- A byte is read from its content. -/
theorem byteOfNode?_byteToJson (byte : UInt8) :
    byteOfNode? (byteToJson byte).shape = some byte := by
  have bound := byte.toNat_lt
  -- A byte is kept as a number within its bounds, which are checked when it is read.
  have fits : (0 : Int) ≤ byte.toNat ∧ (byte.toNat : Int) < 256 := by omega
  show (JsonNumber.integer ⟨byte.toNat, _⟩).numeral.toNumber?.bind _ = _
  rw [JsonNumber.toNumber?_numeral_integer, Option.bind_some]
  show (if _ then _ else _) = _
  rw [if_pos fits, Int.toNat_natCast, UInt8.ofNat_toNat]

/-- Bytes are read from their content, one by one. -/
theorem mapM_byteOfNode? (bytes : List UInt8) :
    (Json.itemShapes (bytes.map byteToJson)).mapM byteOfNode? = some bytes := by
  rw [Json.itemShapes_eq_map, List.map_map, List.mapM_map]
  exact mapM_of_returns fun byte _ => byteOfNode?_byteToJson byte

/-- The content of a value is read under its tag. -/
theorem ofContent?_contentToJson {value : Value} {levels : Nat} (room : 0 < levels)
    (persists : value.Persists levels) :
    ofContent? levels value.tag value.contentToJson.shape = some value := by
  cases value with
  | null | bool _ | text _ => rfl
  | int value =>
    simp only [tag, contentToJson, Json.ofInteger, Json.shape, ofContent?,
      JsonNumber.toNumber?_numeral_integer, intOfNumber?_toInt, Bind.bind, Option.bind_some]
  | float _ => exact persists.elim
  | bytes bytes =>
    -- The brackets around the bytes take one more level.
    have some : ¬ levels = 0 := by omega
    simp only [tag, contentToJson, Json.shape, ofContent?, if_neg some, mapM_byteOfNode?,
      Option.map_some]
  | uuid uuid =>
    simp only [tag, contentToJson, Json.shape, ofContent?, Uuid.ofText?_text, Bind.bind,
      Option.bind_some]
  | timestamp moment =>
    simp only [tag, contentToJson, Json.shape, ofContent?, Timestamp.ofText?_text persists,
      Bind.bind, Option.bind_some]
  | json content =>
    obtain ⟨integral, shallow⟩ := persists
    have back := JsonNode.toJson?_shape content.val integral shallow
    simp only [tag, contentToJson, ofContent?, back, Option.map_some, Json.sorted_val]

/-- A value is read from the shape of its JSON. -/
theorem ofNode?_toJson {value : Value} {levels : Nat} (room : 0 < levels)
    (persists : value.Persists levels) :
    ofNode? (levels + 1) value.toJson.shape = some value := by
  by_cases null : value = .null
  · -- The absence of a value is its tag alone, which no other value is kept as.
    rw [null]
    rfl
  · rw [shape_toJson null]
    exact ofContent?_contentToJson room persists

/-- JSON that nests deeper than the reader goes is not read. -/
theorem ofNode?_toJson_of_deep {content : Json.Ordered} {levels : Nat}
    (deep : levels < content.val.depth) :
    ofNode? (levels + 1) (Value.json content).toJson.shape = none := by
  -- The content is read first, and there it is already too deep.
  have lost := JsonNode.toJson?_shape_of_deep content.val deep
  have present : Value.json content ≠ .null := by
    intro same
    contradiction
  rw [shape_toJson present]
  simp only [ofNode?, tag, contentToJson, ofContent?, lost, Option.map_none]

/-- A float that is infinite or a NaN is kept as null, which is not read as a float. -/
theorem ofNode?_toJson_of_not_isFinite {number : Number.Binary64}
    (endless : number.isFinite = false) (levels : Nat) :
    ofNode? levels (Value.float number).toJson.shape = none := by
  -- JSON has no such numbers, so null is written in their place.
  have content : (Value.float number).contentToJson = .null := by
    have missing : JsonReal.ofDouble? number = none := dif_neg (by simp [endless])
    simp only [contentToJson, missing]
  have present : Value.float number ≠ .null := by
    intro same
    contradiction
  rw [shape_toJson present, content]
  cases levels with
  | zero => rfl
  | succ levels => rfl

/-- A value is read from the text it is kept as, if there is room for its content. -/
theorem ofPersisted?_persisted {value : Value} (persists : value.Persists (Json.nestingLimit - 1)) :
    ofPersisted? value.persisted = some value := by
  unfold ofPersisted? persisted
  rw [JsonNode.ofText?_text]
  exact ofNode?_toJson (by decide) persists

end Value

end RowQuery
