import Mathlib.Data.List.Basic
import RowQuery.Mapping.Declaration
import RowQuery.Proofs.Mapping.Entries

/-!
Options of declarations and of fields. Once all attributes list entries, the first entry that is at
fault decides, and without one the last entry that sets an option does.
-/

namespace RowQuery.Mapping

open Text Unicode

/-- Entries are taken up one after the other, up to the first that is at fault. -/
theorem foldlM_eq_of_faults {σ : Type} {after : σ → Entry → Except Fault σ}
    {fault? : Entry → Option Fault} {update : σ → Entry → σ}
    (step : ∀ state entry, after state entry =
      match fault? entry with
      | some fault => .error fault
      | none => .ok (update state entry))
    (entries : List Entry) (state : σ) :
    entries.foldlM after state =
      match entries.findSome? fault? with
      | some fault => .error fault
      | none => .ok (entries.foldl update state) := by
  -- What has been taken up so far is in the state, which changes from entry to entry.
  induction entries generalizing state with
  | nil => rfl
  | cons entry rest ih =>
    rw [List.foldlM_cons, step, List.findSome?_cons, List.foldl_cons]
    cases fault? entry with
    | some fault => rfl
    | none => exact ih (update state entry)

namespace Entry

/-- What is wrong with an entry of a field, if anything is. -/
def fieldFault? (entry : Entry) : Option Fault :=
  if entry.key = "column" then
    -- A value is asked for before it is looked at.
    match entry.value with
    | none => some (.valueMissing "column")
    | some given => if given.toList.all isBlank then some .blankColumn else none
  else if entry.key = "nested" then entry.value.map fun _ => .valueUnexpected "nested"
  else some (.unknownFieldKey entry.key)

/-- What is wrong with an entry of a whole declaration, if anything is. -/
def structFault? (entry : Entry) : Option Fault :=
  if entry.key = "rename_all" then
    -- A value is asked for before it is looked at.
    match entry.value with
    | none => some (.valueMissing "rename_all")
    | some rule =>
      match renamingRule rule with
      | .error fault => some fault
      | .ok _ => none
  else some (.unknownStructKey entry.key)

/-- The column that an entry gives. -/
def column? (entry : Entry) : Option String :=
  if entry.key = "column" then entry.value else none

/-- The style that an entry gives. -/
def style? (entry : Entry) : Option NameStyle :=
  if entry.key = "rename_all" then
    entry.value.bind fun rule => (renamingRule rule).toOption
  else none

end Entry

/-- The last that entries give. -/
def lastOf {α : Type} (given? : Entry → Option α) (entries : List Entry) : Option α :=
  (entries.filterMap given?).getLast?

/-- What a further entry in front gives counts if the others give nothing. -/
theorem lastOf_cons {α : Type} (given? : Entry → Option α) (entry : Entry) (rest : List Entry) :
    lastOf given? (entry :: rest) = (lastOf given? rest).or (given? entry) := by
  rw [lastOf, lastOf, List.filterMap_cons]
  cases given? entry with
  | none => simp
  | some given =>
    -- What is given in front is the last only if nothing is given behind.
    simp [List.getLast?_cons]

/-- A field's options take up an entry that is not at fault. -/
theorem FieldOptions.after_eq (options : FieldOptions) (entry : Entry) :
    options.after entry =
      match entry.fieldFault? with
      | some fault => .error fault
      | none => .ok ⟨entry.column?.or options.column,
          options.isNested || entry.key = "nested"⟩ := by
  obtain ⟨key, value⟩ := entry
  unfold FieldOptions.after Entry.fieldFault? Entry.column?
  -- There are two keys for fields; the first needs a value, the second must not have one.
  by_cases column : key = "column"
  · subst column
    cases value with
    | none => rfl
    | some given =>
      cases blank : given.toList.all isBlank <;>
        simp [Entry.required, checkedColumn, blank, Bind.bind, Except.bind, Pure.pure, Except.pure]
  · by_cases nested : key = "nested"
    · subst nested
      cases value <;> simp [Entry.plain, Bind.bind, Except.bind, Pure.pure, Except.pure]
    · simp [column, nested]

/-- A declaration's options take up an entry that is not at fault. -/
theorem StructOptions.after_eq (options : StructOptions) (entry : Entry) :
    options.after entry =
      match entry.structFault? with
      | some fault => .error fault
      | none => .ok ⟨entry.style?.or options.style⟩ := by
  obtain ⟨key, value⟩ := entry
  unfold StructOptions.after Entry.structFault? Entry.style?
  -- There is one key for declarations, and its value must be one of the rules.
  by_cases rename : key = "rename_all"
  · subst rename
    cases value with
    | none => rfl
    | some rule =>
      cases known : renamingRule rule <;>
        simp [Entry.required, known, Except.toOption, Bind.bind, Except.bind, Pure.pure,
          Except.pure]
  · simp [rename]

/-- Entries leave a field's options with the last column they give, and nested if one of them says
so. -/
theorem FieldOptions.foldl_eq (entries : List Entry) (options : FieldOptions) :
    entries.foldl (fun options entry => ⟨entry.column?.or options.column,
        options.isNested || entry.key = "nested"⟩) options =
      ⟨(lastOf Entry.column? entries).or options.column,
        options.isNested || entries.any fun entry => entry.key = "nested"⟩ := by
  induction entries generalizing options with
  | nil => simp [lastOf]
  | cons entry rest ih =>
    -- A later column stands in for an earlier one, and a mark as nested stays.
    rw [List.foldl_cons, ih, lastOf_cons]
    simp [Bool.or_assoc, Option.or_assoc]

/-- Entries leave a declaration's options with the last style they give. -/
theorem StructOptions.foldl_eq (entries : List Entry) (options : StructOptions) :
    entries.foldl (fun options entry => StructOptions.mk (entry.style?.or options.style)) options =
      ⟨(lastOf Entry.style? entries).or options.style⟩ := by
  -- The style that is given last stands in front of any from before.
  induction entries generalizing options with
  | nil => simp [lastOf]
  | cons entry rest ih =>
    rw [List.foldl_cons, ih, lastOf_cons]
    simp [Option.or_assoc]

/-- The options that the entries of a field set. -/
def FieldOptions.ofEntries (entries : List Entry) : FieldOptions :=
  ⟨lastOf Entry.column? entries, entries.any fun entry => entry.key = "nested"⟩

/-- The options that the entries of a declaration set. -/
def StructOptions.ofEntries (entries : List Entry) : StructOptions :=
  ⟨lastOf Entry.style? entries⟩

/-- A field whose attributes list entries has their options, or the first fault among them. -/
theorem FieldOptions.ofAttributes_of_lists {attributes : List Attribute} {entries : List Entry}
    (lists : Lists attributes entries) :
    ofAttributes attributes =
      match entries.findSome? Entry.fieldFault? with
      | some fault => .error fault
      | none => .ok (ofEntries entries) := by
  have read := entriesOf_eq_ok_iff.mpr lists
  -- The options are those that all entries leave of the ones nothing is set in.
  have taken := foldlM_eq_of_faults FieldOptions.after_eq entries {}
  rw [FieldOptions.foldl_eq] at taken
  simp only [ofAttributes, read, Bind.bind, Except.bind, taken, Option.or_none, Bool.false_or,
    ofEntries]

/-- A declaration whose attributes list entries has their options, or the first fault among
them. -/
theorem StructOptions.ofAttributes_of_lists {attributes : List Attribute} {entries : List Entry}
    (lists : Lists attributes entries) :
    ofAttributes attributes =
      match entries.findSome? Entry.structFault? with
      | some fault => .error fault
      | none => .ok (ofEntries entries) := by
  -- Reading comes first, and what it finds is taken entry by entry.
  have read := entriesOf_eq_ok_iff.mpr lists
  have taken := foldlM_eq_of_faults StructOptions.after_eq entries {}
  rw [StructOptions.foldl_eq] at taken
  simp only [ofAttributes, read, Bind.bind, Except.bind, taken, Option.or_none, ofEntries]

/-- A field with a malformed attribute has the fault of the first one. -/
theorem FieldOptions.ofAttributes_of_malformed {attributes : List Attribute} {fault : Fault}
    (malformed : FirstMalformed attributes fault) : ofAttributes attributes = .error fault := by
  rw [ofAttributes, entriesOf_eq_error_iff.mpr malformed]
  rfl

/-- A declaration with a malformed attribute has the fault of the first one. -/
theorem StructOptions.ofAttributes_of_malformed {attributes : List Attribute} {fault : Fault}
    (malformed : FirstMalformed attributes fault) : ofAttributes attributes = .error fault := by
  rw [ofAttributes, entriesOf_eq_error_iff.mpr malformed]
  rfl

/-- The entries of attributes are those that the grammar reads off their arguments, and a field's
options depend on them alone. Either all attributes that direct the mapping list entries, or the
fault is that of the first of them that does not, whatever else is wrong. If they do, then the fault
is that of the first entry that is unknown, gives no column or a blank one, or says with a value
that the field is nested; and without such an entry the column is the last one given, and the field
is nested exactly if one of them says so. -/
theorem field_options_follow_entries :
    (∀ (tokens : List Token) (entries : List Entry),
      readEntries tokens = .ok entries ↔ IsListing tokens entries) ∧
    ∀ attributes : List Attribute,
      ((∃ entries, Lists attributes entries) ∨ ∃ fault, FirstMalformed attributes fault) ∧
      (∀ fault, FirstMalformed attributes fault →
        FieldOptions.ofAttributes attributes = .error fault) ∧
      ∀ entries, Lists attributes entries →
        (∀ fault, entries.findSome? Entry.fieldFault? = some fault →
          FieldOptions.ofAttributes attributes = .error fault) ∧
        (entries.findSome? Entry.fieldFault? = none →
          FieldOptions.ofAttributes attributes = .ok {
            column := lastOf Entry.column? entries
            isNested := entries.any fun entry => entry.key = "nested" }) ∧
        ∀ others, Lists others entries →
          FieldOptions.ofAttributes others = FieldOptions.ofAttributes attributes := by
  refine ⟨fun tokens entries => readEntries_eq_ok_iff, ?_⟩
  intro attributes
  refine ⟨lists_or_firstMalformed attributes, ?_, ?_⟩
  · intro fault malformed
    exact FieldOptions.ofAttributes_of_malformed malformed
  · intro entries lists
    have options := FieldOptions.ofAttributes_of_lists lists
    refine ⟨?_, ?_, ?_⟩
    · intro fault first
      rw [options, first]
    · intro faultless
      rw [options, faultless]
      rfl
    · -- Other attributes with the same entries have the same options, by the entries alone.
      intro others alike
      rw [options, FieldOptions.ofAttributes_of_lists alike]

/-- A column is given twice in two attributes, with a foreign one between them. -/
example :
    FieldOptions.ofAttributes [
        ⟨"tessera", .listed [.word "column", .equals, .string "id", .comma]⟩, ⟨"serde", .absent⟩,
        ⟨"tessera", .listed [.word "nested", .comma, .word "column", .equals, .string "key"]⟩] =
      .ok ⟨some "key", true⟩ := by
  decide +kernel

end RowQuery.Mapping
