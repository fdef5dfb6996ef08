import RowQuery.Mapping.Attribute

/-!
Entries of attributes. What the arguments of an attribute list is read off a grammar, and what all
attributes list comes from those alone that direct a mapping, up to the first that is malformed.
-/

namespace RowQuery.Mapping

/-- An entry as it is written: its key, and its value behind an equals sign. -/
def Entry.tokens (entry : Entry) : List Token :=
  .word entry.key :: match entry.value with
    | none => []
    | some value => [.equals, .string value]

/-- Tokens that list entries, each with an identifier for its key, with commas between them. One
comma may follow the last entry, and there may be no entry at all. -/
inductive IsListing : List Token → List Entry → Prop where
  | nil : IsListing [] []
  | last {entry : Entry} (identifier : entry.key ∉ keywords) : IsListing entry.tokens [entry]
  | cons {entry : Entry} {rest : List Token} {others : List Entry}
      (identifier : entry.key ∉ keywords) (more : IsListing rest others) :
      IsListing (entry.tokens ++ .comma :: rest) (entry :: others)

/-- An entry that is read stands in front of what is left, and its key is an identifier. -/
theorem readEntry_sound {tokens rest : List Token} {entry : Entry}
    (read : readEntry tokens = .ok (entry, rest)) :
    entry.key ∉ keywords ∧ tokens = entry.tokens ++ rest := by
  unfold readEntry at read
  split at read
  · rename_i key behind
    -- A keyword is no key.
    split at read
    · contradiction
    · rename_i identifier
      split at read
      · contradiction
      · -- The value is the text behind an equals sign, or there is none and nothing is used up.
        have proper : key ∉ keywords := by simpa using identifier
        unfold readValue at read
        split at read
        · cases read
          exact ⟨proper, rfl⟩
        · contradiction
        · cases read
          exact ⟨proper, rfl⟩
  · contradiction

/-- An entry that stands at the end or in front of a comma is read. -/
theorem readEntry_complete {entry : Entry} {rest : List Token} (identifier : entry.key ∉ keywords)
    (ends : rest = [] ∨ ∃ behind, rest = .comma :: behind) :
    readEntry (entry.tokens ++ rest) = .ok (entry, rest) := by
  obtain ⟨key, value⟩ := entry
  have proper : key ∉ keywords := identifier
  cases value with
  | some value => simpa [Entry.tokens, readEntry, readValue, Except.map] using proper
  | none =>
    -- Without a value, what follows must not begin with an equals sign.
    rcases ends with rfl | ⟨behind, rfl⟩
    · simpa [Entry.tokens, readEntry, readValue, Except.map] using proper
    · simpa [Entry.tokens, readEntry, readValue, Except.map] using proper

/-- What follows the first entry decides how the rest is read. -/
theorem readEntries_of_some {tokens : List Token} (some : tokens ≠ []) :
    readEntries tokens =
      match readEntry tokens with
      | .error fault => .error fault
      | .ok (entry, []) => .ok [entry]
      | .ok (entry, .comma :: rest) => (readEntries rest).map (entry :: ·)
      | .ok (_, _ :: _) => .error .commaMissing := by
  rw [readEntries, if_neg some]
  split <;> rename_i read <;> simp only [read]

/-- Entries are read exactly off tokens that list them. -/
theorem readEntries_eq_ok_iff {tokens : List Token} {entries : List Entry} :
    readEntries tokens = .ok entries ↔ IsListing tokens entries := by
  constructor
  · intro read
    -- The induction follows the reading, one entry and its comma at a time.
    induction tokens using readEntries.induct generalizing entries with
    | case1 =>
      rw [readEntries, if_pos rfl] at read
      cases read
      exact .nil
    | case2 tokens some fault failed =>
      rw [readEntries_of_some some, failed] at read
      contradiction
    | case3 tokens some entry last =>
      rw [readEntries_of_some some, last] at read
      cases read
      obtain ⟨identifier, rfl⟩ := readEntry_sound last
      rw [List.append_nil]
      exact .last identifier
    | case4 tokens some entry rest first ih =>
      rw [readEntries_of_some some, first] at read
      obtain ⟨identifier, rfl⟩ := readEntry_sound first
      cases more : readEntries rest with
      | error fault => simp [more, Except.map] at read
      | ok others =>
        simp only [more, Except.map, Except.ok.injEq] at read
        subst read
        exact .cons identifier (ih more)
    | case5 tokens some entry other rest notComma first =>
      rw [readEntries_of_some some, first] at read
      split at read <;> simp_all
  · intro listing
    -- A listing is read as it is built: its entries end it or stand in front of a comma.
    induction listing with
    | nil => rw [readEntries, if_pos rfl]
    | @last entry identifier =>
      have read := readEntry_complete identifier (.inl rfl)
      rw [List.append_nil] at read
      rw [readEntries_of_some (by simp [Entry.tokens]), read]
    | @cons entry rest others identifier more ih =>
      have read := readEntry_complete identifier (.inr ⟨rest, rfl⟩)
      rw [readEntries_of_some (by simp [Entry.tokens]), read]
      simp only [ih, Except.map]

/-- An attribute directs a mapping. -/
def Attribute.Directs (given : Attribute) : Prop :=
  given.path = attributeName

/-- Arguments list entries between parentheses. -/
def Arguments.Lists (arguments : Arguments) (entries : List Entry) : Prop :=
  ∃ tokens, arguments = .listed tokens ∧ IsListing tokens entries

/-- Arguments have entries exactly if they list them. -/
theorem Arguments.entries_eq_ok_iff {arguments : Arguments} {entries : List Entry} :
    arguments.entries = .ok entries ↔ arguments.Lists entries := by
  -- Without a list there is nothing to read, and that is an error.
  cases arguments with
  | absent => simp [Arguments.entries, Lists]
  | assigned => simp [Arguments.entries, Lists]
  | listed tokens => simp [Arguments.entries, Lists, readEntries_eq_ok_iff]

/-- Attributes list entries: those that direct the mapping list them between them, one after the
other, and the others do not count. -/
inductive Lists : List Attribute → List Entry → Prop where
  | nil : Lists [] []
  | foreign {first : Attribute} {rest : List Attribute} {entries : List Entry}
      (elsewhere : ¬first.Directs) (more : Lists rest entries) : Lists (first :: rest) entries
  | cons {first : Attribute} {rest : List Attribute} {entries others : List Entry}
      (directs : first.Directs) (lists : first.arguments.Lists entries)
      (more : Lists rest others) : Lists (first :: rest) (entries ++ others)

/-- The first of attributes that directs a mapping and does not list entries, and the fault in its
arguments. -/
def FirstMalformed (attributes : List Attribute) (fault : Fault) : Prop :=
  ∃ before malformed behind entries, attributes = before ++ malformed :: behind ∧
    Lists before entries ∧ malformed.Directs ∧
    (∀ others, ¬malformed.arguments.Lists others) ∧ malformed.arguments.entries = .error fault

/-- An attribute that does not direct the mapping is passed over. -/
theorem entriesOf_of_foreign {first : Attribute} (elsewhere : ¬first.Directs)
    (rest : List Attribute) : entriesOf (first :: rest) = entriesOf rest := by
  rw [entriesOf]
  exact if_neg elsewhere

/-- The entries of an attribute that directs the mapping stand in front of those of the others. -/
theorem entriesOf_of_directs {first : Attribute} (directs : first.Directs)
    (rest : List Attribute) :
    entriesOf (first :: rest) =
      match first.arguments.entries with
      | .error fault => .error fault
      | .ok entries => (entriesOf rest).map (entries ++ ·) := by
  have named : first.path = attributeName := directs
  rw [entriesOf, if_pos named]
  -- A fault of the attribute itself is told before the others are read.
  cases first.arguments.entries with
  | error fault => rfl
  | ok entries => cases entriesOf rest <;> rfl

/-- Attributes have entries exactly if they list them. -/
theorem entriesOf_eq_ok_iff {attributes : List Attribute} {entries : List Entry} :
    entriesOf attributes = .ok entries ↔ Lists attributes entries := by
  constructor
  · intro read
    induction attributes generalizing entries with
    | nil =>
      cases read
      exact .nil
    | cons first rest ih =>
      by_cases directs : first.Directs
      · -- Both the first attribute and the others must have been read.
        rw [entriesOf_of_directs directs] at read
        cases own : first.arguments.entries with
        | error fault => simp [own] at read
        | ok ownEntries =>
          cases more : entriesOf rest with
          | error fault => simp [own, more, Except.map] at read
          | ok others =>
            simp only [own, more, Except.map, Except.ok.injEq] at read
            subst read
            exact .cons directs (Arguments.entries_eq_ok_iff.mp own) (ih more)
      · rw [entriesOf_of_foreign directs] at read
        exact .foreign directs (ih read)
  · intro lists
    induction lists with
    | nil => rfl
    | foreign elsewhere _ ih => rw [entriesOf_of_foreign elsewhere, ih]
    | cons directs lists _ ih =>
      rw [entriesOf_of_directs directs, Arguments.entries_eq_ok_iff.mpr lists, ih]
      rfl

/-- Attributes in front of others that list entries do not stand in the way of a fault. -/
theorem entriesOf_append_error {before behind : List Attribute} {entries : List Entry}
    (lists : Lists before entries) {fault : Fault} (failed : entriesOf behind = .error fault) :
    entriesOf (before ++ behind) = .error fault := by
  -- The induction is on the attributes in front, each of which is read and then passed.
  induction lists with
  | nil => exact failed
  | foreign elsewhere _ ih => rw [List.cons_append, entriesOf_of_foreign elsewhere, ih]
  | cons directs lists _ ih =>
    rw [List.cons_append, entriesOf_of_directs directs, Arguments.entries_eq_ok_iff.mpr lists, ih]
    rfl

/-- Attributes have a fault exactly if it is that of the first malformed one. -/
theorem entriesOf_eq_error_iff {attributes : List Attribute} {fault : Fault} :
    entriesOf attributes = .error fault ↔ FirstMalformed attributes fault := by
  constructor
  · intro failed
    induction attributes with
    | nil => contradiction
    | cons first rest ih =>
      by_cases directs : first.Directs
      · rw [entriesOf_of_directs directs] at failed
        cases own : first.arguments.entries with
        | error other =>
          -- The first attribute is the one.
          simp only [own, Except.error.injEq] at failed
          subst failed
          refine ⟨[], first, rest, [], rfl, .nil, directs, ?_, own⟩
          intro others lists
          rw [Arguments.entries_eq_ok_iff.mpr lists] at own
          contradiction
        | ok ownEntries =>
          -- The first attribute is in order, so the fault is among the others.
          have lists := Arguments.entries_eq_ok_iff.mp own
          cases more : entriesOf rest with
          | ok others => simp [own, more, Except.map] at failed
          | error other =>
            simp only [own, more, Except.map, Except.error.injEq] at failed
            subst failed
            obtain ⟨before, malformed, behind, entries, rfl, earlier, found⟩ := ih more
            exact ⟨first :: before, malformed, behind, _, rfl, .cons directs lists earlier, found⟩
      · rw [entriesOf_of_foreign directs] at failed
        obtain ⟨before, malformed, behind, entries, rfl, earlier, found⟩ := ih failed
        exact ⟨first :: before, malformed, behind, _, rfl, .foreign directs earlier, found⟩
  · rintro ⟨before, malformed, behind, entries, rfl, earlier, directs, _, failed⟩
    refine entriesOf_append_error earlier ?_
    rw [entriesOf_of_directs directs, failed]

/-- Attributes list entries, or one of them is the first malformed one. -/
theorem lists_or_firstMalformed (attributes : List Attribute) :
    (∃ entries, Lists attributes entries) ∨ ∃ fault, FirstMalformed attributes fault := by
  cases read : entriesOf attributes with
  | ok entries => exact .inl ⟨entries, entriesOf_eq_ok_iff.mp read⟩
  | error fault => exact .inr ⟨fault, entriesOf_eq_error_iff.mp read⟩

end RowQuery.Mapping
