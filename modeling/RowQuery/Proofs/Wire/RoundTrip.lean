import RowQuery.Proofs.Json.Reading
import RowQuery.Proofs.Number.BigEndian
import RowQuery.Wire.Parameter
import RowQuery.Wire.Row

/-!
Values sent as parameters and read back from cells of the same type. All kinds of values come back
as they were, except that a moment comes back cut off to microseconds toward the server's epoch, and
not as a leap second.
-/

namespace RowQuery.Wire

open Number Text Time

/-- The nanoseconds from the server's epoch to a moment. -/
def sinceEpoch (moment : Timestamp) : Int :=
  (moment.seconds - epochSecond) * 1000000000 + moment.nanoseconds

/-- A moment outside leap seconds that is another one cut off to microseconds toward the epoch. -/
def IsCutOff (received moment : Timestamp) : Prop :=
  received.nanoseconds < 1000000000 ∧
    sinceEpoch received = 1000 * Int.tdiv (sinceEpoch moment) 1000

/-- Cutting off moves a count toward zero, by less than a thousand. -/
theorem bounds_tdiv (count : Int) :
    (0 ≤ count → 1000 * Int.tdiv count 1000 ≤ count ∧ count < 1000 * Int.tdiv count 1000 + 1000) ∧
      (count ≤ 0 → count ≤ 1000 * Int.tdiv count 1000 ∧
        1000 * Int.tdiv count 1000 < count + 1000) := by
  constructor
  · intro positive
    rw [Int.tdiv_eq_ediv_of_nonneg positive]
    omega
  · -- Below zero, cutting off is division of the count mirrored at zero.
    intro negative
    have mirrored : Int.tdiv count 1000 = -(-count / 1000) := by
      rw [← Int.tdiv_eq_ediv_of_nonneg (by omega), Int.neg_tdiv, Int.neg_neg]
    rw [mirrored]
    omega

/-- The first and the last second that a timestamp can hold. -/
theorem seconds_eq : firstSecond = -8334601228800 ∧ lastSecond = 8210266876799 := by
  decide

/-- Microseconds of moments fit eight bytes, with room to spare. -/
theorem bounds_microseconds (moment : Timestamp) :
    -(256 ^ 8 : Nat) ≤ 2 * microseconds moment ∧ 2 * microseconds moment < (256 ^ 8 : Nat) := by
  obtain ⟨first, last⟩ := moment.inRange
  rw [seconds_eq.1] at first
  rw [seconds_eq.2] at last
  have fraction := moment.fraction
  have cut := bounds_tdiv (sinceEpoch moment)
  have same : microseconds moment = Int.tdiv (sinceEpoch moment) 1000 := rfl
  rw [← same, sinceEpoch, epochSecond] at cut
  -- The bounds on either side of the epoch follow from those of the seconds.
  generalize microseconds moment = micro at cut ⊢
  obtain ⟨above, below⟩ := cut
  omega

/-- The bytes of a moment's microseconds are read as the moment that these lead to. -/
theorem timestampOfBytes?_microseconds (moment : Timestamp) :
    timestampOfBytes? (signedBigEndian 8 (microseconds moment)) =
      (Timestamp.ofParts? (epochSecond + microseconds moment / 1000000)
        (microseconds moment % 1000000 * 1000).toNat).map .timestamp := by
  obtain ⟨above, below⟩ := bounds_microseconds moment
  rw [timestampOfBytes?, if_pos (length_signedBigEndian 8 _),
    ofSignedBigEndian_signedBigEndian above below]

/-- A moment comes back from its bytes cut off, unless it is a leap second at the end of time. -/
theorem exists_cutOff {moment : Timestamp}
    (held : moment.nanoseconds < 1000000000 ∨ moment.seconds < lastSecond) :
    ∃ received, timestampOfBytes? (signedBigEndian 8 (microseconds moment)) =
        some (.timestamp received) ∧ IsCutOff received moment := by
  simp only [timestampOfBytes?_microseconds, IsCutOff]
  obtain ⟨first, last⟩ := moment.inRange
  have fraction := moment.fraction
  have cut := bounds_tdiv (sinceEpoch moment)
  have same : microseconds moment = Int.tdiv (sinceEpoch moment) 1000 := rfl
  rw [← same] at cut ⊢
  generalize microseconds moment = micro at cut ⊢
  obtain ⟨above, below⟩ := cut
  rw [sinceEpoch, epochSecond] at above below
  -- The seconds stay in range, since the moment only moves toward the epoch.
  have seconds : firstSecond ≤ epochSecond + micro / 1000000 ∧
      epochSecond + micro / 1000000 ≤ lastSecond := by
    rw [seconds_eq.1, epochSecond, seconds_eq.2] at *
    omega
  have nanoseconds : (micro % 1000000 * 1000).toNat < 1000000000 := by omega
  have short : (micro % 1000000 * 1000).toNat < 2000000000 := by omega
  refine ⟨⟨epochSecond + micro / 1000000, (micro % 1000000 * 1000).toNat, seconds, short⟩, ?_,
    nanoseconds, ?_⟩
  · rw [Timestamp.ofParts?, dif_pos seconds, dif_pos short]
    rfl
  · simp only [sinceEpoch]
    omega

/-- A leap second at the end of time is not read from its bytes. -/
theorem timestampOfBytes?_of_last {moment : Timestamp} (leap : 1000000000 ≤ moment.nanoseconds)
    (last : moment.seconds = lastSecond) :
    timestampOfBytes? (signedBigEndian 8 (microseconds moment)) = none := by
  rw [timestampOfBytes?_microseconds]
  have fraction := moment.fraction
  have cut := (bounds_tdiv (sinceEpoch moment)).1
  have same : microseconds moment = Int.tdiv (sinceEpoch moment) 1000 := rfl
  rw [← same, sinceEpoch, epochSecond, last, seconds_eq.2] at cut
  generalize microseconds moment = micro at cut ⊢
  -- It would be in the second behind the last one.
  have behind : ¬ (firstSecond ≤ epochSecond + micro / 1000000 ∧
      epochSecond + micro / 1000000 ≤ lastSecond) := by
    rw [epochSecond, seconds_eq.2]
    omega
  rw [Timestamp.ofParts?, dif_neg behind, Option.map_none]

/-- Outside leap seconds whole microseconds are not cut off. -/
theorem IsCutOff.eq {received moment : Timestamp} (cutOff : IsCutOff received moment)
    (noLeap : moment.nanoseconds < 1000000000) (whole : moment.nanoseconds % 1000 = 0) :
    received = moment := by
  obtain ⟨fraction, same⟩ := cutOff
  -- A whole number of microseconds is a multiple of what is cut off by.
  have exact : 1000 * Int.tdiv (sinceEpoch moment) 1000 = sinceEpoch moment := by
    refine Int.mul_tdiv_cancel' ?_
    rw [sinceEpoch]
    omega
  rw [exact, sinceEpoch, sinceEpoch] at same
  have seconds : received.seconds = moment.seconds := by omega
  have nanoseconds : received.nanoseconds = moment.nanoseconds := by omega
  cases received
  cases moment
  simp_all

/-- An integer that fits its bytes is read back from them. -/
theorem integerOfBytes?_checkedInteger {width : Nat} {integer : Int64} {bytes : List UInt8}
    (positive : 0 < width) (fits : checkedInteger width integer.toInt = .ok bytes) :
    integerOfBytes? width bytes = some (.int integer) := by
  -- The check bounds the integer by half of what the bytes can count.
  have modulus : 256 ^ width = 2 * (1 <<< (8 * width - 1)) := by
    rw [Nat.shiftLeft_eq, Nat.one_mul, show 256 = 2 ^ 8 from rfl, ← Nat.pow_mul, ← Nat.pow_succ']
    congr 1
    omega
  simp only [checkedInteger] at fits
  generalize 1 <<< (8 * width - 1) = bound at modulus fits
  split at fits
  · contradiction
  · split at fits
    · contradiction
    · have value : ofSignedBigEndian (signedBigEndian width integer.toInt) = integer.toInt :=
        ofSignedBigEndian_signedBigEndian (by omega) (by omega)
      obtain rfl := Except.ok.inj fits
      rw [integerOfBytes?, if_pos (length_signedBigEndian width _), value, Int64.ofInt_toInt]

/-- Every integer is read back from eight bytes. -/
theorem integerOfBytes?_signedBigEndian (integer : Int64) :
    integerOfBytes? 8 (signedBigEndian 8 integer.toInt) = some (.int integer) := by
  have above := integer.le_toInt
  have below := integer.toInt_lt
  -- An integer of 64 bits is within what eight bytes can count.
  have value : ofSignedBigEndian (signedBigEndian 8 integer.toInt) = integer.toInt :=
    ofSignedBigEndian_signedBigEndian (by omega) (by omega)
  rw [integerOfBytes?, if_pos (length_signedBigEndian 8 _), value, Int64.ofInt_toInt]

/-- A text is read back from its bytes. -/
theorem textOfBytes?_textBytes (text : String) : textOfBytes? (textBytes text) = some text :=
  dif_pos text.isValidUTF8

/-- A JSON value is read back from the bytes of its text. -/
theorem jsonOfBytes?_text {json : Json.Ordered} (integral : json.val.isIntegral = true)
    (shallow : json.val.depth ≤ Json.nestingLimit) :
    jsonOfBytes? (textBytes json.val.text) = some (.json json) := by
  simp [jsonOfBytes?, textOfBytes?_textBytes, Json.ofText?_text integral shallow]

/-- A double is read back from its bytes. -/
theorem ofBigEndian_word (number : Binary64) :
    (⟨UInt64.ofNat (ofBigEndian (bigEndian 8 number.word.toNat))⟩ : Binary64) = number := by
  rw [ofBigEndian_bigEndian_of_lt (number.word.toNat_lt), UInt64.ofNat_toNat]

/-- The types that lose nothing of the values sent as them, moments apart. -/
def losslessTypes : List WireType :=
  [.bool, .int2, .int4, .int8, .float8, .text, .varchar, .bpchar, .name, .bytea, .uuid, .timestamp,
    .timestamptz, .json, .jsonb]

/-- The bytes that a value is sent as, as a parameter of a type. -/
inductive Sent : Value → WireType → List UInt8 → Prop where
  | truth (truth : Bool) : Sent (.bool truth) .bool [if truth then 1 else 0]
  | integer {width : Nat} {type : WireType} {integer : Int64} {bytes : List UInt8} :
    (width, type) ∈ [(2, .int2), (4, .int4)] →
    checkedInteger width integer.toInt = .ok bytes → Sent (.int integer) type bytes
  | long (integer : Int64) : Sent (.int integer) .int8 (signedBigEndian 8 integer.toInt)
  | single (number : Binary64) :
    Sent (.float number) .float4 (bigEndian 4 number.narrow.word.toNat)
  | double (number : Binary64) : Sent (.float number) .float8 (bigEndian 8 number.word.toNat)
  | text {type : WireType} {front : List UInt8} (text : String) :
    type.textFront? = some front → Sent (.text text) type (front ++ textBytes text)
  | bytes (bytes : List UInt8) : Sent (.bytes bytes) .bytea bytes
  | uuid (uuid : Uuid) : Sent (.uuid uuid) .uuid uuid.bytes
  | moment {type : WireType} (moment : Timestamp) :
    type ∈ [.timestamp, .timestamptz] →
    Sent (.timestamp moment) type (signedBigEndian 8 (microseconds moment))
  | json (json : Json.Ordered) : Sent (.json json) .json (textBytes json.val.text)
  | versioned (json : Json.Ordered) : Sent (.json json) .jsonb (1 :: textBytes json.val.text)

/-- Values are sent as bytes, and their absence as none. -/
theorem sent_of_encode {value : Value} {type : WireType} {cell : WireValue}
    (encoded : encode value type = .ok cell) :
    value = .null ∧ cell = none ∨ ∃ bytes, cell = some bytes ∧ Sent value type bytes := by
  -- Each kind of values goes with its own types, and with all others it is refused.
  cases value with
  | null => exact .inl ⟨rfl, (Except.ok.inj encoded).symm⟩
  | bool truth =>
    cases type <;> simp only [encode, Except.ok.injEq, reduceCtorEq] at encoded
    exact .inr ⟨_, encoded.symm, .truth truth⟩
  | int integer =>
    have narrow : ∀ width, (width, type) ∈ [(2, WireType.int2), (4, WireType.int4)] →
        (checkedInteger width integer.toInt).map some = .ok cell →
        ∃ bytes, cell = some bytes ∧ Sent (.int integer) type bytes := by
      intro width typed mapped
      cases checked : checkedInteger width integer.toInt with
      | error error => simp [checked, Except.map] at mapped
      | ok bytes =>
        simp only [checked, Except.map, Except.ok.injEq] at mapped
        exact ⟨bytes, mapped.symm, .integer typed checked⟩
    cases type <;> simp only [encode, Except.ok.injEq, reduceCtorEq] at encoded
    case int2 => exact .inr (narrow 2 (by simp) encoded)
    case int4 => exact .inr (narrow 4 (by simp) encoded)
    case int8 => exact .inr ⟨_, encoded.symm, .long integer⟩
  | float number =>
    cases type <;> simp only [encode, Except.ok.injEq, reduceCtorEq] at encoded
    case float4 => exact .inr ⟨_, encoded.symm, .single number⟩
    case float8 => exact .inr ⟨_, encoded.symm, .double number⟩
  | text text =>
    cases typed : type.textFront? with
    | some front =>
      simp only [encode, typed, Except.ok.injEq] at encoded
      exact .inr ⟨_, encoded.symm, .text text typed⟩
    | none => simp only [encode, typed, reduceCtorEq] at encoded
  | bytes bytes =>
    cases type <;> simp only [encode, Except.ok.injEq, reduceCtorEq] at encoded
    exact .inr ⟨_, encoded.symm, .bytes bytes⟩
  | uuid uuid =>
    cases type <;> simp only [encode, Except.ok.injEq, reduceCtorEq] at encoded
    exact .inr ⟨_, encoded.symm, .uuid uuid⟩
  | timestamp moment =>
    cases type <;> simp only [encode, Except.ok.injEq, reduceCtorEq] at encoded
    all_goals exact .inr ⟨_, encoded.symm, .moment moment (by simp)⟩
  | json json =>
    cases type <;> simp only [encode, Except.ok.injEq, reduceCtorEq] at encoded
    case json => exact .inr ⟨_, encoded.symm, .json json⟩
    case jsonb => exact .inr ⟨_, encoded.symm, .versioned json⟩

/-- Only the absence of a value is sent without bytes, as a parameter of any type. -/
theorem encode_eq_none_iff {value : Value} {type : WireType} :
    encode value type = .ok none ↔ value = .null := by
  -- Whatever else can be sent at all is sent as bytes.
  constructor
  · intro encoded
    rcases sent_of_encode encoded with ⟨absent, _⟩ | ⟨_, present, _⟩
    · exact absent
    · contradiction
  · rintro rfl
    rfl

/-- The lossless types that take texts read them too, with nothing in front of them. -/
theorem reader_of_textFront {type : WireType} {front : List UInt8} (lossless : type ∈ losslessTypes)
    (typed : type.textFront? = some front) :
    front = [] ∧ type.reader? = some fun bytes => (textOfBytes? bytes).map .text := by
  simp only [losslessTypes, List.mem_cons, List.not_mem_nil, or_false] at lossless
  -- The types are gone through one by one; most of them take no texts.
  rcases lossless with rfl | rfl | rfl | rfl | rfl | rfl | rfl | rfl | rfl | rfl | rfl | rfl | rfl |
    rfl | rfl <;> cases typed <;> exact ⟨rfl, rfl⟩

/-- What is sent of a value that is no moment is read as that value. -/
theorem Sent.exists_reader {value : Value} {type : WireType} {bytes : List UInt8}
    (sent : Sent value type bytes) (lossless : type ∈ losslessTypes)
    (noMoment : ∀ moment, value ≠ .timestamp moment)
    (readable : ∀ json, value = .json json →
      json.val.isIntegral = true ∧ json.val.depth ≤ Json.nestingLimit) :
    ∃ read, type.reader? = some read ∧ read bytes = some value := by
  -- One case for every way to send a value; two of them are of types that lose something.
  cases sent with
  | truth truth => exact ⟨_, rfl, by cases truth <;> rfl⟩
  | integer typed checked =>
    simp only [List.mem_cons, Prod.mk.injEq, List.not_mem_nil, or_false] at typed
    rcases typed with ⟨rfl, rfl⟩ | ⟨rfl, rfl⟩
    · exact ⟨_, rfl, integerOfBytes?_checkedInteger (by decide) checked⟩
    · exact ⟨_, rfl, integerOfBytes?_checkedInteger (by decide) checked⟩
  | long integer => exact ⟨_, rfl, integerOfBytes?_signedBigEndian integer⟩
  | single number => exact absurd lossless (by decide)
  | double number =>
    refine ⟨_, rfl, ?_⟩
    simp only [length_bigEndian, if_true, ofBigEndian_word]
  | text text typed =>
    obtain ⟨rfl, reader⟩ := reader_of_textFront lossless typed
    exact ⟨_, reader, by rw [List.nil_append, textOfBytes?_textBytes, Option.map_some]⟩
  | bytes bytes => exact ⟨_, rfl, rfl⟩
  | uuid uuid =>
    refine ⟨_, rfl, ?_⟩
    simp [Uuid.ofBytes?, uuid.size]
  | moment moment _ => exact absurd rfl (noMoment moment)
  | json json =>
    obtain ⟨integral, shallow⟩ := readable json rfl
    exact ⟨_, rfl, jsonOfBytes?_text integral shallow⟩
  | versioned json =>
    obtain ⟨integral, shallow⟩ := readable json rfl
    exact ⟨_, rfl, jsonOfBytes?_text integral shallow⟩

section Column

variable {column : ResultColumn} {read : List UInt8 → Option Value}
  (reader : column.type.reader? = some read) (position : Nat)

include reader

/-- The absence of a value is read as such. -/
theorem value_of_none : column.value position none = .ok .null := by
  simp only [ResultColumn.value, reader]

/-- A cell has the value that its bytes are read as. -/
theorem value_of_read {bytes : List UInt8} {value : Value} (back : read bytes = some value) :
    column.value position (some bytes) = .ok value := by
  simp only [ResultColumn.value, reader, back]

/-- A cell whose bytes cannot be read has no value. -/
theorem value_of_unread {bytes : List UInt8} (unread : read bytes = none) :
    ∃ error, column.value position (some bytes) = .error error := by
  simp only [ResultColumn.value, reader, unread, Except.error.injEq, exists_eq']

end Column

/-- Moments are read by the reader of moments. -/
theorem Sent.reader_of_moment {moment : Timestamp} {type : WireType} {bytes : List UInt8}
    (sent : Sent (.timestamp moment) type bytes) :
    type.reader? = some timestampOfBytes? ∧ bytes = signedBigEndian 8 (microseconds moment) := by
  -- A moment is sent in one way, at two types that are read alike.
  cases sent with
  | moment _ typed =>
    simp only [List.mem_cons, List.not_mem_nil, or_false] at typed
    rcases typed with rfl | rfl
    · exact ⟨rfl, rfl⟩
    · exact ⟨rfl, rfl⟩

/-- Cells of lossless types can be read. -/
theorem exists_reader_of_lossless {type : WireType} (lossless : type ∈ losslessTypes) :
    ∃ read, type.reader? = some read := by
  have all : ∀ type ∈ losslessTypes, type.reader?.isSome = true := by decide
  exact Option.isSome_iff_exists.mp (all type lossless)

/-- A leap second comes back as the start of the second behind it, although it is a whole number of
microseconds. -/
theorem leap_second_moves_on :
    let leap : Timestamp := ⟨915148799, 1000000000, by decide, by decide⟩
    let next : Timestamp := ⟨915148800, 0, by decide, by decide⟩
    let column : ResultColumn := ⟨"at", .timestamptz⟩
    ∃ bytes, encode (.timestamp leap) column.type = .ok (some bytes) ∧
      leap.nanoseconds % 1000 = 0 ∧
      column.value 0 (some bytes) = .ok (.timestamp next) ∧ next ≠ leap := by
  intro leap next column
  -- The microseconds of a leap second are those of the second behind it.
  have back : timestampOfBytes? (signedBigEndian 8 (microseconds leap)) =
      some (.timestamp next) := by
    rw [timestampOfBytes?_microseconds]
    rfl
  have reader : column.type.reader? = some timestampOfBytes? := rfl
  exact ⟨_, rfl, by decide, value_of_read reader 0 back, by decide⟩

/-- Values read back as they were sent. Only the absence of a value is sent without bytes, at any
type. At a lossless type the cell that was sent is read as the value itself, JSON within the limits
of its reader, unless it is a moment. A moment comes back cut off to microseconds toward the
server's epoch, which is the moment itself if it has whole microseconds and is no leap second. A
leap second at the end of time cannot be read back. -/
theorem values_return {value : Value} {column : ResultColumn} {cell : WireValue}
    (lossless : column.type ∈ losslessTypes) (encoded : encode value column.type = .ok cell)
    (position : Nat) :
    (∀ type, encode value type = .ok none ↔ value = .null) ∧
    ((∀ moment, value ≠ .timestamp moment) →
      (∀ json, value = .json json →
        json.val.isIntegral = true ∧ json.val.depth ≤ Json.nestingLimit) →
      column.value position cell = .ok value) ∧
    ∀ moment, value = .timestamp moment →
      (moment.nanoseconds < 1000000000 ∨ moment.seconds < lastSecond →
        ∃ received, column.value position cell = .ok (.timestamp received) ∧
          IsCutOff received moment ∧
          (moment.nanoseconds < 1000000000 → moment.nanoseconds % 1000 = 0 →
            received = moment)) ∧
      (1000000000 ≤ moment.nanoseconds → moment.seconds = lastSecond →
        ∃ error, column.value position cell = .error error) := by
  refine ⟨fun type => encode_eq_none_iff, fun noMoment readable => ?_, ?_⟩
  · -- A value that is absent is read as such at any type, and any other from its bytes.
    rcases sent_of_encode encoded with ⟨rfl, rfl⟩ | ⟨bytes, rfl, sent⟩
    · obtain ⟨read, reader⟩ := exists_reader_of_lossless lossless
      exact value_of_none reader position
    · obtain ⟨read, reader, back⟩ := sent.exists_reader lossless noMoment readable
      exact value_of_read reader position back
  · rintro moment rfl
    rcases sent_of_encode encoded with ⟨absent, _⟩ | ⟨bytes, rfl, sent⟩
    · contradiction
    · obtain ⟨reader, rfl⟩ := sent.reader_of_moment
      refine ⟨fun held => ?_, fun leap last => ?_⟩
      · obtain ⟨received, back, cutOff⟩ := exists_cutOff held
        exact ⟨received, value_of_read reader position back, cutOff, cutOff.eq⟩
      · exact value_of_unread reader position (timestampOfBytes?_of_last leap last)

/-- A moment shortly before the server's epoch comes back later, on a whole microsecond, and a text
comes back as it is. -/
theorem values_return_of_early_moment :
    let moment : Timestamp := ⟨946684799, 999998001, by decide, by decide⟩
    let column : ResultColumn := ⟨"at", .timestamp⟩
    (∃ cell received, encode (.timestamp moment) column.type = .ok cell ∧
      column.value 0 cell = .ok (.timestamp received) ∧
      received.seconds = 946684799 ∧ received.nanoseconds = 999999000) ∧
    ∃ cell, encode (.text "Zoë") .varchar = .ok cell ∧
      (⟨"name", .varchar⟩ : ResultColumn).value 1 cell = .ok (.text "Zoë") := by
  intro moment column
  constructor
  · have encoded : encode (.timestamp moment) column.type =
        .ok (some (signedBigEndian 8 (microseconds moment))) := rfl
    have returned := ((values_return (by decide) encoded 0).2.2 moment rfl).1
    obtain ⟨received, back, ⟨fraction, same⟩, _⟩ := returned (.inl (by decide))
    refine ⟨_, received, encoded, back, ?_⟩
    -- It is 1999 nanoseconds before the epoch, of which one microsecond is left.
    have cut : 1000 * Int.tdiv (sinceEpoch moment) 1000 = -1000 := by decide
    rw [cut, sinceEpoch, epochSecond] at same
    omega
  · have encoded : encode (.text "Zoë") .varchar = .ok (some (textBytes "Zoë")) := rfl
    refine ⟨_, encoded, ?_⟩
    exact (@values_return _ ⟨"name", .varchar⟩ _ (by decide) encoded 1).2.1 (by simp) (by simp)

end RowQuery.Wire
