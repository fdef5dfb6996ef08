import Mathlib.Data.List.Forall2
import Mathlib.Data.List.Nodup
import RowQuery.Proofs.Mapping.Options
import RowQuery.Proofs.Mapping.Records

/-!
Records that can be written as rows. Exactly the flat declarations with distinct columns are
accepted, every other one is refused for the first thing that is wrong with it, and columns and
values stay aligned down to the text that is sent.
-/

namespace RowQuery.Mapping

open Text

/-- The column of a field that is given none: its name without the mark of a keyword, in the style
of the declaration if that has one. -/
def Field.ownColumn (style : Option NameStyle) (field : Field) : String :=
  match style with
  | some style => style.apply field.plainName
  | none => field.plainName

/-- A field is written to a column: its attributes list entries without a fault, none of them makes
it nested, and the column is the last one they give, or else the field's own. -/
structure Field.WrittenAs (style : Option NameStyle) (field : Field) (written : WrittenField) :
    Prop where
  name : written.field = field.name
  column : ∃ entries, Lists field.attributes entries ∧
    (∀ entry ∈ entries, entry.fieldFault? = none) ∧ (∀ entry ∈ entries, entry.key ≠ "nested") ∧
    written.column = (lastOf Entry.column? entries).getD (field.ownColumn style)

/-- The first thing that is wrong with a field, beside columns that are taken already. -/
inductive Field.Violates (style : Option NameStyle) (taken : List String) (field : Field) :
    Fault → Prop where
  | malformed {fault : Fault} (malformed : FirstMalformed field.attributes fault) :
      field.Violates style taken fault
  | entry {entries : List Entry} {fault : Fault} (lists : Lists field.attributes entries)
      (first : entries.findSome? Entry.fieldFault? = some fault) : field.Violates style taken fault
  | nested {entries : List Entry} (lists : Lists field.attributes entries)
      (faultless : ∀ entry ∈ entries, entry.fieldFault? = none)
      (nested : ∃ entry ∈ entries, entry.key = "nested") : field.Violates style taken .nestedField
  | duplicate {written : WrittenField} (writtenAs : field.WrittenAs style written)
      (repeated : written.column ∈ taken) :
      field.Violates style taken (.duplicateColumn written.column)

section Fields

variable {style : Option NameStyle} {taken : List String} {field : Field}

/-- Entries without a fault among them, none of which makes a field nested, set its column. -/
theorem FieldOptions.ofAttributes_of_writtenAs {written : WrittenField}
    (writtenAs : field.WrittenAs style written) :
    ∃ options, ofAttributes field.attributes = .ok options ∧ options.isNested = false ∧
      field.column options ⟨style⟩ = written.column := by
  obtain ⟨_, entries, lists, faultless, flat, column⟩ := writtenAs
  refine ⟨ofEntries entries, ?_, ?_, ?_⟩
  · rw [ofAttributes_of_lists lists, List.findSome?_eq_none_iff.mpr faultless]
  · simpa [ofEntries] using flat
  · -- A column that is given goes in front of a style, and a style in front of the name.
    rw [column]
    unfold Field.column Field.ownColumn ofEntries
    cases lastOf Entry.column? entries <;> cases style <;> rfl

/-- A field with a column of its own stands in front of those behind it. -/
theorem writtenFields_of_writtenAs {written : WrittenField}
    (writtenAs : field.WrittenAs style written) (fresh : written.column ∉ taken)
    (rest : List Field) :
    writtenFields ⟨style⟩ taken (field :: rest) =
      (writtenFields ⟨style⟩ (taken ++ [written.column]) rest).map (written :: ·) := by
  obtain ⟨options, set, flat, column⟩ := FieldOptions.ofAttributes_of_writtenAs writtenAs
  -- What is written of a field is its column and its own name.
  have same : (⟨written.column, field.name⟩ : WrittenField) = written := by
    rw [← writtenAs.name]
  simp [writtenFields, set, flat, column, fresh, same]

/-- A field that violates what is asked of it is refused for that. -/
theorem writtenFields_of_violates {fault : Fault}
    (violates : field.Violates style taken fault) (rest : List Field) :
    writtenFields ⟨style⟩ taken (field :: rest) = .error fault := by
  -- One case for every way to violate, in the order in which they are looked for.
  cases violates with
  | malformed malformed =>
    simp [writtenFields, FieldOptions.ofAttributes_of_malformed malformed]
  | entry lists first =>
    simp [writtenFields, FieldOptions.ofAttributes_of_lists lists, first]
  | nested lists faultless nested =>
    have set := FieldOptions.ofAttributes_of_lists lists
    rw [List.findSome?_eq_none_iff.mpr faultless] at set
    simp [writtenFields, set, FieldOptions.ofEntries, nested]
  | duplicate writtenAs repeated =>
    obtain ⟨options, set, flat, column⟩ := FieldOptions.ofAttributes_of_writtenAs writtenAs
    simp [writtenFields, set, flat, column, repeated]

/-- A field has a column of its own, or violates what is asked of it. -/
theorem Field.writtenAs_or_violates (style : Option NameStyle) (taken : List String)
    (field : Field) :
    (∃ written, field.WrittenAs style written ∧ written.column ∉ taken) ∨
      ∃ fault, field.Violates style taken fault := by
  -- What can go wrong is looked for in the order in which it is checked.
  rcases lists_or_firstMalformed field.attributes with ⟨entries, lists⟩ | ⟨fault, malformed⟩
  · cases first : entries.findSome? Entry.fieldFault? with
    | some fault => exact .inr ⟨fault, .entry lists first⟩
    | none =>
      have faultless := List.findSome?_eq_none_iff.mp first
      by_cases nested : ∃ entry ∈ entries, entry.key = "nested"
      · exact .inr ⟨_, .nested lists faultless nested⟩
      · have writtenAs : field.WrittenAs style
            ⟨(lastOf Entry.column? entries).getD (field.ownColumn style), field.name⟩ :=
          ⟨rfl, entries, lists, faultless, by simpa using nested, rfl⟩
        by_cases repeated : (lastOf Entry.column? entries).getD (field.ownColumn style) ∈ taken
        · exact .inr ⟨_, .duplicate writtenAs repeated⟩
        · exact .inl ⟨_, writtenAs, repeated⟩
  · exact .inr ⟨fault, .malformed malformed⟩

/-- Fields that are written, in order, to columns of their own stand in front of those behind
them. -/
theorem writtenFields_append (style : Option NameStyle) (taken : List String)
    {before : List Field} {written : List WrittenField}
    (each : List.Forall₂ (Field.WrittenAs style) before written)
    (distinct : (taken ++ written.map WrittenField.column).Nodup) (behind : List Field) :
    writtenFields ⟨style⟩ taken (before ++ behind) =
      (writtenFields ⟨style⟩ (taken ++ written.map WrittenField.column) behind).map
        (written ++ ·) := by
  -- The induction is on the fields in front; their columns are taken one by one.
  induction each generalizing taken with
  | nil =>
    rw [List.nil_append, List.map_nil, List.append_nil]
    cases writtenFields ⟨style⟩ taken behind <;> rfl
  | @cons field written rest others writtenAs _ ih =>
    rw [List.map_cons, List.append_cons taken] at distinct ⊢
    -- The column of the first field is not among those in front of it.
    have fresh : written.column ∉ taken := by
      have front := (List.nodup_append.mp distinct).1
      rw [← List.concat_eq_append, List.nodup_concat] at front
      exact front.1
    rw [List.cons_append, writtenFields_of_writtenAs writtenAs fresh, ih _ distinct]
    cases writtenFields ⟨style⟩ _ behind <;> rfl

/-- Fields are all written to columns of their own, or the first that is not violates what is asked
of it. -/
theorem exists_written_or_violates (style : Option NameStyle) (taken : List String)
    (distinct : taken.Nodup) (fields : List Field) :
    (∃ written, List.Forall₂ (Field.WrittenAs style) fields written ∧
        (taken ++ written.map WrittenField.column).Nodup) ∨
      ∃ before field behind written fault, fields = before ++ field :: behind ∧
        List.Forall₂ (Field.WrittenAs style) before written ∧
        (taken ++ written.map WrittenField.column).Nodup ∧
        field.Violates style (taken ++ written.map WrittenField.column) fault := by
  -- The columns of the fields that are written are taken for those behind them.
  induction fields generalizing taken with
  | nil => exact .inl ⟨[], .nil, by simpa using distinct⟩
  | cons field rest ih =>
    rcases field.writtenAs_or_violates style taken with
      ⟨written, writtenAs, fresh⟩ | ⟨fault, violates⟩
    · have grown : (taken ++ [written.column]).Nodup := by
        rw [← List.concat_eq_append]
        exact distinct.concat fresh
      -- The first field goes in front of those behind it, all of them or up to the faulty one.
      rcases ih (taken ++ [written.column]) grown with
        ⟨others, each, apart⟩ | ⟨before, other, behind, others, fault, rfl, each, apart, violates⟩
      · refine .inl ⟨written :: others, .cons writtenAs each, ?_⟩
        rwa [List.map_cons, List.append_cons taken]
      · refine .inr ⟨field :: before, other, behind, written :: others, fault, rfl,
          .cons writtenAs each, ?_, ?_⟩
        · rwa [List.map_cons, List.append_cons taken]
        · rwa [List.map_cons, List.append_cons taken]
    · exact .inr ⟨[], field, rest, [], fault, rfl, .nil, by simpa using distinct,
        by simpa using violates⟩

end Fields

/-- There are four rules to rename by. -/
theorem exists_renamingRule_iff (rule : String) :
    (∃ style, renamingRule rule = .ok style) ↔
      rule ∈ ["snake_case", "camelCase", "PascalCase", "SCREAMING_SNAKE_CASE"] := by
  unfold renamingRule
  split <;> simp_all

/-- The entries of a declaration rename by one of the rules there are. -/
def Renames (entries : List Entry) : Prop :=
  ∀ entry ∈ entries, entry.key = "rename_all" ∧ entry.value ∈ [some "snake_case",
    some "camelCase", some "PascalCase", some "SCREAMING_SNAKE_CASE"]

/-- An entry of a declaration is not at fault exactly if it renames by one of the rules there
are. -/
theorem Entry.structFault?_eq_none_iff {entry : Entry} :
    entry.structFault? = none ↔ entry.key = "rename_all" ∧ entry.value ∈ [some "snake_case",
      some "camelCase", some "PascalCase", some "SCREAMING_SNAKE_CASE"] := by
  obtain ⟨key, value⟩ := entry
  -- The key is judged before the value is.
  unfold structFault?
  by_cases rename : key = "rename_all"
  · subst rename
    cases value with
    | none => simp
    | some rule =>
      have ruled := exists_renamingRule_iff rule
      cases known : renamingRule rule <;> simp_all
  · simp [rename]

/-- A declaration is written to columns: its attributes rename by rules there are, it has named
fields, and these are written in order to columns that are distinct. -/
def Declaration.Writes (declaration : Declaration) (fields : List Field)
    (written : List WrittenField) : Prop :=
  ∃ entries, Lists declaration.attributes entries ∧ Renames entries ∧
    declaration.body = .named fields ∧
    List.Forall₂ (Field.WrittenAs (lastOf Entry.style? entries)) fields written ∧
    (written.map WrittenField.column).Nodup

/-- The first thing that is wrong with a declaration that is to be written: with its attributes,
then with what it declares, then with its fields one after the other. -/
inductive Declaration.Violates (declaration : Declaration) : Fault → Prop where
  | malformed {fault : Fault} (malformed : FirstMalformed declaration.attributes fault) :
      declaration.Violates fault
  | entry {entries : List Entry} {fault : Fault} (lists : Lists declaration.attributes entries)
      (first : entries.findSome? Entry.structFault? = some fault) : declaration.Violates fault
  | unnamed {entries : List Entry} (lists : Lists declaration.attributes entries)
      (renames : Renames entries) (body : declaration.body = .unnamed) :
      declaration.Violates (.unnamedFields .insertable)
  | notAStruct {entries : List Entry} (lists : Lists declaration.attributes entries)
      (renames : Renames entries) (body : declaration.body = .notAStruct) :
      declaration.Violates (.notAStruct .insertable)
  | field {entries : List Entry} {before behind : List Field} {field : Field}
      {written : List WrittenField} {fault : Fault}
      (lists : Lists declaration.attributes entries) (renames : Renames entries)
      (body : declaration.body = .named (before ++ field :: behind))
      (each : List.Forall₂ (Field.WrittenAs (lastOf Entry.style? entries)) before written)
      (distinct : (written.map WrittenField.column).Nodup)
      (violates : field.Violates (lastOf Entry.style? entries)
        (written.map WrittenField.column) fault) : declaration.Violates fault

section Declarations

variable {declaration : Declaration} {entries : List Entry}

/-- The entries of a declaration that renames leave no fault. -/
theorem StructOptions.ofAttributes_of_renames (lists : Lists declaration.attributes entries)
    (renames : Renames entries) :
    ofAttributes declaration.attributes = .ok ⟨lastOf Entry.style? entries⟩ := by
  -- The first fault is sought among all entries, and none of them has one.
  have faultless : entries.findSome? Entry.structFault? = none := by
    rw [List.findSome?_eq_none_iff]
    intro entry member
    exact Entry.structFault?_eq_none_iff.mpr (renames entry member)
  rw [ofAttributes_of_lists lists, faultless]
  rfl

/-- A declaration that renames has the columns of its fields. -/
theorem Declaration.insertable_of_renames (lists : Lists declaration.attributes entries)
    (renames : Renames entries) {fields : List Field} (body : declaration.body = .named fields) :
    declaration.insertable = writtenFields ⟨lastOf Entry.style? entries⟩ [] fields := by
  rw [insertable, StructOptions.ofAttributes_of_renames lists renames, fieldsFor, body]
  rfl

/-- A declaration that is written to columns has them. -/
theorem Declaration.insertable_of_writes {fields : List Field} {written : List WrittenField}
    (writes : declaration.Writes fields written) : declaration.insertable = .ok written := by
  obtain ⟨entries, lists, renames, body, each, distinct⟩ := writes
  -- There are no fields behind those that are written.
  have appended := writtenFields_append _ [] each distinct []
  rw [insertable_of_renames lists renames body, ← List.append_nil fields, appended]
  simp [writtenFields, Except.map]

/-- A declaration that violates what is asked of it is refused for that. -/
theorem Declaration.insertable_of_violates {fault : Fault}
    (violates : declaration.Violates fault) : declaration.insertable = .error fault := by
  -- One case for every way to violate; each comes with what was found in order before it.
  cases violates with
  | malformed malformed =>
    rw [insertable, StructOptions.ofAttributes_of_malformed malformed]
    rfl
  | entry lists first =>
    rw [insertable, StructOptions.ofAttributes_of_lists lists, first]
    rfl
  | unnamed lists renames body =>
    rw [insertable, StructOptions.ofAttributes_of_renames lists renames, fieldsFor, body]
    rfl
  | notAStruct lists renames body =>
    rw [insertable, StructOptions.ofAttributes_of_renames lists renames, fieldsFor, body]
    rfl
  | @field entries before behind field written fault lists renames body each distinct violates =>
    rw [insertable_of_renames lists renames body,
      writtenFields_append _ [] each distinct, List.nil_append,
      writtenFields_of_violates violates]
    rfl

/-- A declaration is written to columns, or violates what is asked of it. -/
theorem Declaration.writes_or_violates (declaration : Declaration) :
    (∃ fields written, declaration.Writes fields written) ∨
      ∃ fault, declaration.Violates fault := by
  -- The attributes are looked at in front of the body, and its fields come last.
  rcases lists_or_firstMalformed declaration.attributes with ⟨entries, lists⟩ | ⟨fault, malformed⟩
  · cases first : entries.findSome? Entry.structFault? with
    | some fault => exact .inr ⟨fault, .entry lists first⟩
    | none =>
      have renames : Renames entries := by
        intro entry member
        have faultless := List.findSome?_eq_none_iff.mp first entry member
        exact Entry.structFault?_eq_none_iff.mp faultless
      cases body : declaration.body with
      | unnamed => exact .inr ⟨_, .unnamed lists renames body⟩
      | notAStruct => exact .inr ⟨_, .notAStruct lists renames body⟩
      | named fields =>
        rcases exists_written_or_violates (lastOf Entry.style? entries) [] .nil fields with
          ⟨written, each, distinct⟩ |
          ⟨before, field, behind, written, fault, rfl, each, distinct, violates⟩
        · exact .inl ⟨fields, written, entries, lists, renames, body, each, distinct⟩
        · exact .inr ⟨fault, .field lists renames body each distinct violates⟩
  · exact .inr ⟨fault, .malformed malformed⟩

/-- A declaration has columns exactly if it is written to them. -/
theorem Declaration.insertable_eq_ok_iff {written : List WrittenField} :
    declaration.insertable = .ok written ↔ ∃ fields, declaration.Writes fields written := by
  constructor
  · intro accepted
    -- A declaration that violates something is refused, so this one is written.
    rcases declaration.writes_or_violates with ⟨fields, others, writes⟩ | ⟨fault, violates⟩
    · rw [insertable_of_writes writes, Except.ok.injEq] at accepted
      exact ⟨fields, accepted ▸ writes⟩
    · rw [insertable_of_violates violates] at accepted
      contradiction
  · rintro ⟨fields, writes⟩
    exact insertable_of_writes writes

end Declarations

/-- An explicit column that repeats a renamed one is refused, although the names differ. -/
example :
    Declaration.insertable {
      attributes := [⟨"tessera", .listed [.word "rename_all", .equals, .string "camelCase"]⟩]
      body := .named [⟨"user_id", []⟩,
        ⟨"owner", [⟨"tessera", .listed [.word "column", .equals, .string "userId"]⟩]⟩] } =
      .error (.duplicateColumn "userId") := by
  decide +kernel

end RowQuery.Mapping
