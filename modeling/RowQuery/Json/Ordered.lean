import RowQuery.Json.Basic

/-! JSON values whose objects keep their members in the order of the keys, each key once. -/

namespace RowQuery.Json

/-- Whether keys are strictly increasing. -/
def keysIncrease : List String → Bool
  | [] => true
  | [_] => true
  | first :: second :: rest => first < second && keysIncrease (second :: rest)

mutual

/-- Whether every object in a value has its members in key order, each key once. -/
def isOrdered : Json → Bool
  | .array items => itemsOrdered items
  | .object members => keysIncrease (members.map (·.1)) && membersOrdered members
  | _ => true

/-- Whether every item is ordered. -/
def itemsOrdered : List Json → Bool
  | [] => true
  | item :: rest => item.isOrdered && itemsOrdered rest

/-- Whether every member's value is ordered. -/
def membersOrdered : List (String × Json) → Bool
  | [] => true
  | (_, value) :: rest => value.isOrdered && membersOrdered rest

end

/-- Puts a member at its place in key order, where one of the same key is kept. -/
def insertMember (key : String) (value : Json) : List (String × Json) → List (String × Json)
  | [] => [(key, value)]
  | (other, kept) :: rest =>
    if key < other then (key, value) :: (other, kept) :: rest
    else if key = other then (other, kept) :: rest
    else (other, kept) :: insertMember key value rest

mutual

/-- The value with the members of every object in key order. -/
def inOrder : Json → Json
  | .array items => .array (itemsInOrder items)
  | .object members => .object (membersInOrder members)
  | other => other

/-- The items with the members of every object in key order. -/
def itemsInOrder : List Json → List Json
  | [] => []
  | item :: rest => item.inOrder :: itemsInOrder rest

/-- The members in key order, of which the last one of each key counts. -/
def membersInOrder : List (String × Json) → List (String × Json)
  | [] => []
  | (key, value) :: rest => insertMember key value.inOrder (membersInOrder rest)

end

/-- A key that is not in front of another and not the same is behind it. -/
theorem lt_of_not_lt_of_ne {key other : String} (behind : ¬ key < other) (differ : key ≠ other) :
    other < key :=
  Std.lt_of_le_of_ne (String.not_lt.mp behind) (Ne.symm differ)

/-- Keys behind a first one still increase when a member with a key behind it is put among them. -/
theorem keysIncrease_cons_insertMember {first key : String} (value : Json)
    {members : List (String × Json)} (behind : first < key)
    (increase : keysIncrease (first :: members.map (·.1)) = true) :
    keysIncrease (first :: (insertMember key value members).map (·.1)) = true := by
  -- The member is put in front of the next one, is dropped for it, or goes on behind it.
  induction members generalizing first with
  | nil => simpa [insertMember, keysIncrease] using behind
  | cons member rest ih =>
    obtain ⟨other, kept⟩ := member
    simp only [List.map_cons, keysIncrease, Bool.and_eq_true, decide_eq_true_eq] at increase
    rw [insertMember]
    split
    · rename_i before
      simp [keysIncrease, behind, before, increase.2]
    · rename_i notBefore
      split
      · simp [keysIncrease, increase.1, increase.2]
      · rename_i differ
        have later := ih (lt_of_not_lt_of_ne notBefore differ) increase.2
        simp [keysIncrease, increase.1, later]

/-- Keys still increase when a member is put in its place. -/
theorem keysIncrease_insertMember (key : String) (value : Json) {members : List (String × Json)}
    (increase : keysIncrease (members.map (·.1)) = true) :
    keysIncrease ((insertMember key value members).map (·.1)) = true := by
  cases members with
  | nil => rfl
  | cons member rest =>
    obtain ⟨other, kept⟩ := member
    rw [insertMember]
    split
    · rename_i before
      simpa [keysIncrease, before] using increase
    · rename_i notBefore
      split
      · exact increase
      · rename_i differ
        exact keysIncrease_cons_insertMember value (lt_of_not_lt_of_ne notBefore differ) increase

/-- Members stay ordered when one with an ordered value is put among them. -/
theorem membersOrdered_insertMember (key : String) {value : Json} (ordered : value.isOrdered = true)
    {members : List (String × Json)} (all : membersOrdered members = true) :
    membersOrdered (insertMember key value members) = true := by
  induction members with
  | nil => simp [insertMember, membersOrdered, ordered]
  | cons member rest ih =>
    obtain ⟨other, kept⟩ := member
    simp only [membersOrdered, Bool.and_eq_true] at all
    rw [insertMember]
    split
    · simp [membersOrdered, ordered, all.1, all.2]
    · split
      · simp [membersOrdered, all.1, all.2]
      · simp [membersOrdered, all.1, ih all.2]

/-- The keys of members that have been put in order increase. -/
theorem keysIncrease_membersInOrder (members : List (String × Json)) :
    keysIncrease ((membersInOrder members).map (·.1)) = true := by
  induction members with
  | nil => rfl
  | cons member rest ih => exact keysIncrease_insertMember member.1 member.2.inOrder ih

mutual

/-- A value that has been put in order is ordered. -/
theorem isOrdered_inOrder (json : Json) : json.inOrder.isOrdered = true := by
  cases json with
  | array items => exact itemsOrdered_itemsInOrder items
  | object members =>
    rw [inOrder, isOrdered, keysIncrease_membersInOrder, membersOrdered_membersInOrder members]
    rfl
  | _ => rfl

/-- Items that have been put in order are ordered. -/
theorem itemsOrdered_itemsInOrder (items : List Json) :
    itemsOrdered (itemsInOrder items) = true := by
  cases items with
  | nil => rfl
  | cons item rest =>
    rw [itemsInOrder, itemsOrdered, isOrdered_inOrder item, itemsOrdered_itemsInOrder rest]
    rfl

/-- The values of members that have been put in order are ordered. -/
theorem membersOrdered_membersInOrder (members : List (String × Json)) :
    membersOrdered (membersInOrder members) = true := by
  match members with
  | [] => rfl
  | (key, value) :: rest =>
    exact membersOrdered_insertMember key (isOrdered_inOrder value)
      (membersOrdered_membersInOrder rest)

end

/-- JSON as values hold it: the members of every object are in key order. -/
abbrev Ordered :=
  { json : Json // json.isOrdered = true }

/-- The value with its members in key order, of which the last one of each key counts. -/
def sorted (json : Json) : Json.Ordered :=
  ⟨json.inOrder, json.isOrdered_inOrder⟩

instance : Coe Json Json.Ordered := ⟨sorted⟩

/-- A member whose key is in front of those of the others comes first. -/
theorem insertMember_of_first {key : String} {value : Json} {members : List (String × Json)}
    (increase : keysIncrease (key :: members.map (·.1)) = true) :
    insertMember key value members = (key, value) :: members := by
  cases members with
  | nil => rfl
  | cons member rest =>
    simp only [List.map_cons, keysIncrease, Bool.and_eq_true, decide_eq_true_eq] at increase
    rw [insertMember, if_pos increase.1]

mutual

/-- A value that is ordered is not changed when it is put in order. -/
theorem inOrder_of_isOrdered (json : Json) (ordered : json.isOrdered = true) :
    json.inOrder = json := by
  cases json with
  | array items => rw [inOrder, itemsInOrder_of_itemsOrdered items ordered]
  | object members =>
    rw [isOrdered, Bool.and_eq_true] at ordered
    rw [inOrder, membersInOrder_of_membersOrdered members ordered.1 ordered.2]
  | _ => rfl

/-- Items that are ordered are not changed when they are put in order. -/
theorem itemsInOrder_of_itemsOrdered (items : List Json) (ordered : itemsOrdered items = true) :
    itemsInOrder items = items := by
  cases items with
  | nil => rfl
  | cons item rest =>
    rw [itemsOrdered, Bool.and_eq_true] at ordered
    rw [itemsInOrder, inOrder_of_isOrdered item ordered.1,
      itemsInOrder_of_itemsOrdered rest ordered.2]

/-- Members that are ordered and whose keys increase are not changed when they are put in order. -/
theorem membersInOrder_of_membersOrdered (members : List (String × Json))
    (increase : keysIncrease (members.map (·.1)) = true)
    (ordered : membersOrdered members = true) : membersInOrder members = members := by
  match members with
  | [] => rfl
  | (key, value) :: rest =>
    rw [membersOrdered, Bool.and_eq_true] at ordered
    -- The keys behind the first one increase as well.
    have later : keysIncrease (rest.map (·.1)) = true := by
      cases rest with
      | nil => rfl
      | cons next rest => exact (Bool.and_eq_true_iff.mp increase).2
    rw [membersInOrder, inOrder_of_isOrdered value ordered.1,
      membersInOrder_of_membersOrdered rest later ordered.2, insertMember_of_first increase]

end

/-- Ordered JSON is its own sorted value. -/
@[simp] theorem sorted_val (json : Json.Ordered) : json.val.sorted = json :=
  Subtype.ext (inOrder_of_isOrdered json.val json.property)

end RowQuery.Json
