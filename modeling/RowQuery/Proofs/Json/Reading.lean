import RowQuery.Proofs.Json.Lexical
import RowQuery.Proofs.Json.Numerals

/-!
The compact text of a JSON value is read as the shape of that value. The shape of a value is that
value again, if its numbers are integers and it nests no deeper than the reader allows; nothing that
nests deeper is read.
-/

namespace RowQuery

open Number Text

namespace Json

mutual

/-- Whether every number in a value is an integer. -/
def isIntegral : Json → Bool
  | .number (.real _) => false
  | .array items => itemsIntegral items
  | .object members => membersIntegral members
  | _ => true

/-- Whether every number in several items is an integer. -/
def itemsIntegral : List Json → Bool
  | [] => true
  | item :: rest => item.isIntegral && itemsIntegral rest

/-- Whether every number in the values of members is an integer. -/
def membersIntegral : List (String × Json) → Bool
  | [] => true
  | (_, value) :: rest => value.isIntegral && membersIntegral rest

end

mutual

/-- The number of levels that a value nests. -/
def depth : Json → Nat
  | .array items => itemsDepth items + 1
  | .object members => membersDepth members + 1
  | _ => 0

/-- The number of levels that items nest. -/
def itemsDepth : List Json → Nat
  | [] => 0
  | item :: rest => max item.depth (itemsDepth rest)

/-- The number of levels that the values of members nest. -/
def membersDepth : List (String × Json) → Nat
  | [] => 0
  | (_, value) :: rest => max value.depth (membersDepth rest)

end

mutual

/-- The shape that the text of a value has. -/
def shape : Json → JsonNode
  | .null => .null
  | .bool value => .bool value
  | .number value => .number value.numeral
  | .string text => .string (some text)
  | .array items => .array (itemShapes items)
  | .object members => .object (memberShapes members)

/-- The shapes of items. -/
def itemShapes : List Json → List JsonNode
  | [] => []
  | item :: rest => item.shape :: itemShapes rest

/-- The shapes of members. -/
def memberShapes : List (String × Json) → List (Option String × JsonNode)
  | [] => []
  | (key, value) :: rest => (some key, value.shape) :: memberShapes rest

end

end Json

namespace JsonNode

/-- Characters that a number starts with are no blanks. -/
theorem skipSpace_numeral {first : Char} (starts : first.isDigit = true ∨ first = '-')
    (rest : List Char) : skipSpace (first :: rest) = first :: rest := by
  refine List.dropWhile_cons_of_neg ?_
  -- There are four blanks, none of which is a digit or the sign.
  intro blank
  simp only [Bool.or_eq_true, decide_eq_true_eq] at blank
  rcases blank with ((rfl | rfl) | rfl) | rfl <;> revert starts <;> decide

/-- A number starts with a sign or a digit. -/
theorem exists_head_number (number : JsonNumber) :
    ∃ first rest, number.text.toList = first :: rest ∧ (first.isDigit = true ∨ first = '-') := by
  rw [number.toList_text]
  exact number.isWellFormed_numeral.exists_head

/-- A text that starts with a value, and so neither with a blank nor with the end of an array. -/
def StartsValue (text : List Char) : Prop :=
  ∃ first rest, text = first :: rest ∧ skipSpace (first :: rest) = first :: rest ∧ first ≠ ']'

/-- A value is written without blanks in front. -/
theorem startsValue_chars (json : Json) (rest : List Char) : StartsValue (json.chars ++ rest) := by
  -- Each form of value has a first character of its own; a number has a digit or a sign.
  cases json with
  | null => exact ⟨'n', _, rfl, rfl, by decide⟩
  | bool value => cases value <;> exact ⟨_, _, rfl, rfl, by decide⟩
  | number number =>
    obtain ⟨first, behind, text, starts⟩ := exists_head_number number
    refine ⟨first, behind ++ rest, ?_, skipSpace_numeral starts _, ?_⟩
    · rw [Json.chars, text, List.cons_append]
    · rintro rfl
      revert starts
      decide
  | string text => exact ⟨'"', _, rfl, rfl, by decide⟩
  | array items => exact ⟨'[', _, rfl, rfl, by decide⟩
  | object members => exact ⟨'\x7b', _, rfl, rfl, by decide⟩

/-- Items are written without blanks in front. -/
theorem startsValue_itemChars {items : List Json} (some : items ≠ []) (rest : List Char) :
    StartsValue (Json.itemChars items ++ rest) := by
  -- Only the first item matters, whether or not a comma follows it.
  match items with
  | [] => contradiction
  | [item] => exact startsValue_chars item rest
  | item :: next :: others =>
    rw [Json.itemChars, List.append_assoc]
    exact startsValue_chars item _

/-- Members start with the quote of a key. -/
theorem exists_quote_memberChars (members : List (String × Json)) (present : members ≠ [])
    (rest : List Char) : ∃ inner, Json.memberChars members ++ rest = '"' :: inner := by
  match members with
  | [] => contradiction
  | [(key, value)] => exact ⟨_, rfl⟩
  | (key, value) :: next :: others => exact ⟨_, rfl⟩

/-- A numeral is read where a sign or a digit stands. -/
theorem read?_numeral {first : Char} (starts : first.isDigit = true ∨ first = '-')
    (fuel : Nat) (rest : List Char) :
    read? (fuel + 1) (first :: rest) =
      (numeral? (first :: rest)).map fun read => (.number read.1, read.2) := by
  rw [read?, skipSpace_numeral starts]
  -- Every other value starts with a character of its own.
  split
  case h_7 => rfl
  all_goals
    rename_i same
    obtain rfl := (List.cons.inj same).1
    exact absurd starts (by decide)

/-- A comma or a bracket ends a numeral. -/
theorem endsNumeral_cons {first : Char} (ends : first = ',' ∨ first = ']' ∨ first = '\x7d')
    (rest : List Char) : EndsNumeral (first :: rest) := by
  intro char found
  obtain rfl := Option.some.inj found
  rcases ends with rfl | rfl | rfl <;> decide

/-- The items of an array are read behind its bracket. -/
theorem read?_array {inner : List Char} (starts : StartsValue inner) (fuel : Nat) :
    read? (fuel + 1) ('[' :: inner) =
      (readItems? fuel inner).map fun read => (.array read.1, read.2) := by
  obtain ⟨first, rest, rfl, kept, noEnd⟩ := starts
  have bracket : skipSpace ('[' :: first :: rest) = '[' :: first :: rest := by simp [skipSpace]
  rw [read?, bracket]
  simp only [kept]
  -- The inside does not start with the closing bracket, so there are items to read.
  split
  · rename_i same
    exact absurd (List.cons.inj same).1 noEnd
  · rfl

/-- The members of an object are read behind its brace. -/
theorem read?_object {inner : List Char} (fuel : Nat) :
    read? (fuel + 1) ('\x7b' :: '"' :: inner) =
      (readMembers? fuel ('"' :: inner)).map fun read => (.object read.1, read.2) := by
  simp [read?, skipSpace]

/-- A member is read by its key, its value and what follows. -/
theorem readMembers?_stringText (key : String) (fuel : Nat) (text : List Char) :
    readMembers? (fuel + 1) (Json.stringText key ++ ':' :: text) =
      (read? fuel text).bind fun read =>
        match skipSpace read.2 with
        | ',' :: rest =>
          (readMembers? fuel rest).map fun behind => ((some key, read.1) :: behind.1, behind.2)
        | '\x7d' :: rest => some ([(some key, read.1)], rest)
        | _ => none := by
  obtain ⟨inner, quoted, read⟩ := string?_stringText key (':' :: text)
  rw [quoted, readMembers?]
  -- Neither the quote nor the colon is skipped as a blank.
  have quote : skipSpace ('"' :: inner) = '"' :: inner := by simp [skipSpace]
  have colon : skipSpace (':' :: text) = ':' :: text := by simp [skipSpace]
  simp only [quote, read, colon]
  cases read? fuel text <;> rfl

/-- A number is read from its text, up to a character that cannot go on with it. -/
theorem read?_number (number : JsonNumber) (fuel : Nat) {rest : List Char}
    (ended : EndsNumeral rest) :
    read? (fuel + 1) (number.text.toList ++ rest) = some (.number number.numeral, rest) := by
  -- The first character tells that a number is there, and then it is read as a numeral.
  obtain ⟨first, behind, text, starts⟩ := exists_head_number number
  rw [text, List.cons_append, read?_numeral starts, ← List.cons_append, ← text, number.toList_text,
    numeral?_chars number.isWellFormed_numeral ended]
  rfl

/-- An array is read from its text if its items are. -/
theorem read?_arrayChars {items : List Json} {fuel : Nat} {rest : List Char}
    (inside : items ≠ [] →
      readItems? fuel (Json.itemChars items ++ ']' :: rest) =
        some (Json.itemShapes items, rest)) :
    read? (fuel + 1) ((Json.array items).chars ++ rest) =
      some ((Json.array items).shape, rest) := by
  simp only [Json.chars, Json.shape, List.cons_append, List.append_assoc, List.nil_append]
  -- An array without items is closed at once, and one with items starts with the first of them.
  cases items with
  | nil => simp [Json.itemChars, Json.itemShapes, read?, skipSpace]
  | cons item items =>
    rw [read?_array (startsValue_itemChars (List.cons_ne_nil _ _) _),
      inside (List.cons_ne_nil _ _)]
    rfl

/-- An object is read from its text if its members are. -/
theorem read?_objectChars {members : List (String × Json)} {fuel : Nat} {rest : List Char}
    (inside : members ≠ [] →
      readMembers? fuel (Json.memberChars members ++ '\x7d' :: rest) =
        some (Json.memberShapes members, rest)) :
    read? (fuel + 1) ((Json.object members).chars ++ rest) =
      some ((Json.object members).shape, rest) := by
  simp only [Json.chars, Json.shape, List.cons_append, List.append_assoc, List.nil_append]
  -- An object without members is closed at once, and otherwise a key is quoted first.
  cases members with
  | nil => simp [Json.memberChars, Json.memberShapes, read?, skipSpace]
  | cons member members =>
    have read := inside (List.cons_ne_nil _ _)
    obtain ⟨inner, quoted⟩ := exists_quote_memberChars (member :: members)
      (List.cons_ne_nil _ _) ('\x7d' :: rest)
    rw [quoted] at read ⊢
    rw [read?_object, read]
    rfl

mutual

/-- The shape of a value is read from its text, up to where the text ends. -/
theorem read?_chars (json : Json) {fuel : Nat} (enough : 2 * json.chars.length ≤ fuel)
    {rest : List Char} (ended : EndsNumeral rest) :
    read? fuel (json.chars ++ rest) = some (json.shape, rest) := by
  -- A text is never empty, so one step can be taken.
  obtain ⟨steps, rfl⟩ : ∃ steps, fuel = steps + 1 := by
    obtain ⟨first, behind, text, _⟩ := startsValue_chars json []
    rw [List.append_nil] at text
    rw [text, List.length_cons] at enough
    exact ⟨fuel - 1, by omega⟩
  cases json with
  | null => simp [Json.chars, Json.shape, read?, skipSpace]
  | bool value => cases value <;> simp [Json.chars, Json.shape, read?, skipSpace]
  | number number =>
    rw [Json.chars, Json.shape]
    exact read?_number number steps ended
  | string text =>
    obtain ⟨inner, quoted, read⟩ := string?_stringText text rest
    rw [Json.chars, Json.shape, quoted]
    simp [read?, skipSpace, read]
  | array items =>
    refine read?_arrayChars fun present => ?_
    simp only [Json.chars, List.length_cons, List.length_append, List.length_nil] at enough
    exact readItems?_itemChars items present (by omega) rest
  | object members =>
    refine read?_objectChars fun present => ?_
    simp only [Json.chars, List.length_cons, List.length_append, List.length_nil] at enough
    exact readMembers?_memberChars members present (by omega) rest

/-- The shapes of items are read from their text, up to the bracket behind them. -/
theorem readItems?_itemChars (items : List Json) (present : items ≠ [])
    {fuel : Nat} (enough : 2 * (Json.itemChars items).length + 1 ≤ fuel) (rest : List Char) :
    readItems? fuel (Json.itemChars items ++ ']' :: rest) =
      some (Json.itemShapes items, rest) := by
  obtain ⟨steps, rfl⟩ : ∃ steps, fuel = steps + 1 := ⟨fuel - 1, by omega⟩
  match items with
  | [] => contradiction
  | [item] =>
    -- The bracket follows the last item.
    rw [Json.itemChars] at enough ⊢
    have inside : 2 * item.chars.length ≤ steps := by omega
    have read := read?_chars item inside (endsNumeral_cons (.inr (.inl rfl)) rest)
    simp [Json.itemShapes, readItems?, read, skipSpace]
  | item :: next :: others =>
    rw [Json.itemChars, List.length_append, List.length_cons] at enough
    rw [Json.itemChars, List.append_assoc, List.cons_append]
    have inside : 2 * item.chars.length ≤ steps := by omega
    have read := read?_chars item inside
      (endsNumeral_cons (.inl rfl) (Json.itemChars (next :: others) ++ ']' :: rest))
    have later : 2 * (Json.itemChars (next :: others)).length + 1 ≤ steps := by omega
    have readLater := readItems?_itemChars (next :: others) (List.cons_ne_nil _ _) later rest
    simp [Json.itemShapes, readItems?, read, skipSpace, readLater]

/-- The shapes of members are read from their text, up to the brace behind them. -/
theorem readMembers?_memberChars (members : List (String × Json)) (present : members ≠ [])
    {fuel : Nat} (enough : 2 * (Json.memberChars members).length + 1 ≤ fuel) (rest : List Char) :
    readMembers? fuel (Json.memberChars members ++ '\x7d' :: rest) =
      some (Json.memberShapes members, rest) := by
  obtain ⟨steps, rfl⟩ : ∃ steps, fuel = steps + 1 := ⟨fuel - 1, by omega⟩
  match members with
  | [] => contradiction
  | [(key, value)] =>
    -- The brace follows the last member.
    rw [Json.memberChars, List.length_append, List.length_cons] at enough
    rw [Json.memberChars, List.append_assoc, List.cons_append]
    have inside : 2 * value.chars.length ≤ steps := by omega
    have read := read?_chars value inside (endsNumeral_cons (.inr (.inr rfl)) rest)
    rw [readMembers?_stringText, read]
    simp [Json.memberShapes, skipSpace]
  | (key, value) :: next :: others =>
    rw [Json.memberChars] at enough ⊢
    simp only [List.length_append, List.length_cons] at enough
    simp only [List.append_assoc, List.cons_append]
    have inside : 2 * value.chars.length ≤ steps := by omega
    have read := read?_chars value inside
      (endsNumeral_cons (.inl rfl) (Json.memberChars (next :: others) ++ '\x7d' :: rest))
    have later : 2 * (Json.memberChars (next :: others)).length + 1 ≤ steps := by omega
    have readLater := readMembers?_memberChars (next :: others) (List.cons_ne_nil _ _) later rest
    rw [readMembers?_stringText, read]
    simp [Json.memberShapes, skipSpace, readLater]

end

/-- The text of a value is read as the shape of that value. -/
theorem ofText?_text (json : Json) : ofText? json.text = some json.shape := by
  have enough : 2 * json.chars.length ≤ 2 * json.text.toList.length + 2 := by
    simp only [Json.text, String.toList_ofList]
    omega
  -- The whole text is read, and behind it there is nothing to end a numeral or to be skipped.
  have read := read?_chars json enough (show EndsNumeral [] from fun _ none => by simp at none)
  unfold ofText?
  simp only [List.append_nil, Json.text, String.toList_ofList] at read ⊢
  rw [read]
  simp [skipSpace]

mutual

/-- The shape of a value is that value, if its numbers are integers and it nests no deeper than the
given number of levels. -/
theorem toJson?_shape (json : Json) (integral : json.isIntegral = true) {levels : Nat}
    (shallow : json.depth ≤ levels) : json.shape.toJson? levels = some json := by
  cases json with
  | null => rw [Json.shape, toJson?]
  | bool value => rw [Json.shape, toJson?]
  | number number =>
    cases number with
    | integer value =>
      rw [Json.shape, toJson?, JsonNumber.toNumber?_numeral_integer]
      rfl
    | real value => simp [Json.isIntegral] at integral
  | string text =>
    rw [Json.shape, toJson?]
    rfl
  | array items =>
    -- The brackets are the one level above the items.
    rw [Json.depth] at shallow
    obtain ⟨below, rfl⟩ := Nat.exists_eq_add_one_of_ne_zero (Nat.ne_zero_of_lt shallow)
    rw [Json.shape, toJson?,
      itemsToJson?_itemShapes items integral (Nat.le_of_succ_le_succ shallow)]
    rfl
  | object members =>
    -- The braces are the one level above the members.
    rw [Json.depth] at shallow
    obtain ⟨below, rfl⟩ := Nat.exists_eq_add_one_of_ne_zero (Nat.ne_zero_of_lt shallow)
    rw [Json.shape, toJson?,
      membersToJson?_memberShapes members integral (Nat.le_of_succ_le_succ shallow)]
    rfl

/-- The shapes of items are those items. -/
theorem itemsToJson?_itemShapes (items : List Json) (integral : Json.itemsIntegral items = true)
    {levels : Nat} (shallow : Json.itemsDepth items ≤ levels) :
    itemsToJson? levels (Json.itemShapes items) = some items := by
  cases items with
  | nil => rw [Json.itemShapes, itemsToJson?]
  | cons item rest =>
    simp only [Json.itemsIntegral, Json.itemsDepth, Bool.and_eq_true] at integral shallow
    -- What holds of the items together holds of the first one and of the rest.
    have first := toJson?_shape item integral.1 (show item.depth ≤ levels by omega)
    have others := itemsToJson?_itemShapes rest integral.2
      (show Json.itemsDepth rest ≤ levels by omega)
    simp [Json.itemShapes, itemsToJson?, first, others]

/-- The shapes of members are those members. -/
theorem membersToJson?_memberShapes (members : List (String × Json))
    (integral : Json.membersIntegral members = true) {levels : Nat}
    (shallow : Json.membersDepth members ≤ levels) :
    membersToJson? levels (Json.memberShapes members) = some members := by
  match members with
  | [] => rw [Json.memberShapes, membersToJson?]
  | (key, value) :: rest =>
    simp only [Json.membersIntegral, Json.membersDepth, Bool.and_eq_true] at integral shallow
    -- What holds of the members together holds of the first one and of the rest.
    have first := toJson?_shape value integral.1 (show value.depth ≤ levels by omega)
    have others := membersToJson?_memberShapes rest integral.2
      (show Json.membersDepth rest ≤ levels by omega)
    simp [Json.memberShapes, membersToJson?, first, others]

end

mutual

/-- No value is read that nests deeper than the given number of levels. -/
theorem toJson?_shape_of_deep (json : Json) {levels : Nat} (deep : levels < json.depth) :
    json.shape.toJson? levels = none := by
  cases json with
  | null | bool _ | number _ | string _ => exact absurd deep (Nat.not_lt_zero _)
  | array items =>
    -- The brackets take a level, if there is one left to take.
    rw [Json.depth] at deep
    cases levels with
    | zero => rw [Json.shape, toJson?]
    | succ below =>
      rw [Json.shape, toJson?, itemsToJson?_itemShapes_of_deep items (Nat.lt_of_succ_lt_succ deep)]
      rfl
  | object members =>
    rw [Json.depth] at deep
    cases levels with
    | zero => rw [Json.shape, toJson?]
    | succ below =>
      rw [Json.shape, toJson?,
        membersToJson?_memberShapes_of_deep members (Nat.lt_of_succ_lt_succ deep)]
      rfl

/-- No items are read one of which nests deeper than the given number of levels. -/
theorem itemsToJson?_itemShapes_of_deep (items : List Json) {levels : Nat}
    (deep : levels < Json.itemsDepth items) :
    itemsToJson? levels (Json.itemShapes items) = none := by
  cases items with
  | nil => exact absurd deep (Nat.not_lt_zero _)
  | cons item rest =>
    rw [Json.itemsDepth] at deep
    -- The first item nests too deep, or one of the others does.
    rcases Nat.lt_or_ge levels item.depth with first | first
    · simp [Json.itemShapes, itemsToJson?, toJson?_shape_of_deep item first]
    · have others := itemsToJson?_itemShapes_of_deep rest
        (show levels < Json.itemsDepth rest by omega)
      simp [Json.itemShapes, itemsToJson?, others]

/-- No members are read one of whose values nests deeper than the given number of levels. -/
theorem membersToJson?_memberShapes_of_deep (members : List (String × Json)) {levels : Nat}
    (deep : levels < Json.membersDepth members) :
    membersToJson? levels (Json.memberShapes members) = none := by
  match members with
  | [] => exact absurd deep (Nat.not_lt_zero _)
  | (key, value) :: rest =>
    rw [Json.membersDepth] at deep
    -- The first value nests too deep, or one of the others does.
    rcases Nat.lt_or_ge levels value.depth with first | first
    · simp [Json.memberShapes, membersToJson?, toJson?_shape_of_deep value first]
    · have others := membersToJson?_memberShapes_of_deep rest
        (show levels < Json.membersDepth rest by omega)
      simp [Json.memberShapes, membersToJson?, others]

end

end JsonNode

namespace Json

/-- The text of a value is read as that value, if its numbers are integers and it nests no deeper
than the reader allows. -/
theorem ofText?_text {json : Json} (integral : json.isIntegral = true) {levels : Nat}
    (shallow : json.depth ≤ levels) : ofText? levels json.text = some json := by
  simp [ofText?, JsonNode.ofText?_text, JsonNode.toJson?_shape json integral shallow]

end Json

end RowQuery
