import RowQuery.Proofs.Mapping.Columns
import RowQuery.Proofs.Text.Words

/-!
Blank columns. A column that is given is never blank, and neither is one made of a name with letters
or numbers; what is left of a name without any, in a style, is nothing.
-/

namespace RowQuery.Mapping

open Text Unicode

/-- A text shows something exactly if it is not blank. -/
theorem shows_iff_not_blank (text : List Char) : Shows text ↔ text.all isBlank = false := by
  simp [Shows, List.all_eq_false]

/-- A column that an entry without a fault gives shows something. -/
theorem Entry.shows_column {entry : Entry} (faultless : entry.fieldFault? = none) {given : String}
    (gives : entry.column? = some given) : Shows given.toList := by
  obtain ⟨key, value⟩ := entry
  rw [shows_iff_not_blank]
  unfold column? at gives
  split at gives
  · rename_i column
    -- A blank column would be a fault of the entry.
    cases blank : given.toList.all isBlank with
    | false => rfl
    | true =>
      subst gives column
      simp [fieldFault?, blank] at faultless
  · contradiction

/-- The last column that entries without a fault give shows something. -/
theorem shows_lastOf_column {entries : List Entry}
    (faultless : ∀ entry ∈ entries, entry.fieldFault? = none) {given : String}
    (last : lastOf Entry.column? entries = some given) : Shows given.toList := by
  obtain ⟨entry, member, gives⟩ := List.mem_filterMap.mp (List.mem_of_getLast? last)
  exact Entry.shows_column (faultless entry member) gives

/-- Nothing is left of a field's own name: in a style if it has neither letters nor numbers, and
without one if it is blank itself. -/
def Field.IsBare (style : Option NameStyle) (field : Field) : Prop :=
  match style with
  | some _ => ∀ char ∈ field.plainName.toList, isAlphanumeric char = false
  | none => ¬Shows field.plainName.toList

/-- The column of a field that is given none shows something unless the field is bare. -/
theorem Field.shows_ownColumn_iff (style : Option NameStyle) (field : Field) :
    Shows (field.ownColumn style).toList ↔ ¬field.IsBare style := by
  cases style with
  | none => simp [ownColumn, IsBare]
  | some style =>
    simp only [ownColumn, IsBare]
    -- The letters and numbers of the name decide both sides.
    rcases style.apply_cases field.plainName with ⟨bare, empty⟩ | ⟨⟨char, inside, letter⟩, shown⟩
    · refine iff_of_false ?_ fun letters => letters bare
      simp [empty, Shows]
    · refine iff_of_true shown ?_
      intro bare
      rw [bare char inside] at letter
      contradiction

/-- A field with a letter or a number in its name is not bare. -/
theorem Field.not_isBare {field : Field} {char : Char} (inside : char ∈ field.plainName.toList)
    (letter : isAlphanumeric char = true) (style : Option NameStyle) : ¬field.IsBare style := by
  intro bare
  cases style with
  | none =>
    -- Without a style the name itself is shown, and its letter with it.
    exact bare ⟨char, inside, isBlank_of_isAlphanumeric letter⟩
  | some style =>
    rw [bare char inside] at letter
    contradiction

/-- A declaration that is accepted has a blank column for exactly those of its fields that are given
no column and are bare. In a style these are the fields whose names have neither letters nor
numbers, and nothing at all is left of them; a field with a letter or a number in its name never has
a blank column. -/
theorem blank_columns_are_of_bare_fields {declaration : Declaration} {written : List WrittenField}
    (accepted : declaration.insertable = .ok written) :
    ∃ fields entries, declaration.body = .named fields ∧ Lists declaration.attributes entries ∧
      List.Forall₂ (fun field written => ∃ given, Lists field.attributes given ∧
        (¬Shows written.column.toList ↔ lastOf Entry.column? given = none ∧
          field.IsBare (lastOf Entry.style? entries)) ∧
        ((lastOf Entry.style? entries).isSome = true → ¬Shows written.column.toList →
          written.column = "") ∧
        ((∃ char ∈ field.plainName.toList, isAlphanumeric char = true) →
          Shows written.column.toList)) fields written := by
  obtain ⟨fields, entries, lists, _, body, each, _⟩ :=
    declaration.insertable_eq_ok_iff.mp accepted
  refine ⟨fields, entries, body, lists, each.imp ?_⟩
  rintro field written ⟨_, given, listed, faultless, _, column⟩
  refine ⟨given, listed, ?_⟩
  cases last : lastOf Entry.column? given with
  | some explicit =>
    -- A given column shows something, whatever the name of the field is.
    have shown : Shows written.column.toList := by
      rw [column, last]
      exact shows_lastOf_column faultless last
    exact ⟨by simp [shown], fun _ hidden => absurd shown hidden, fun _ => shown⟩
  | none =>
    have own : written.column = field.ownColumn (lastOf Entry.style? entries) := by
      rw [column, last, Option.getD_none]
    rw [own, field.shows_ownColumn_iff]
    refine ⟨by simp, ?_, ?_⟩
    · -- A style leaves nothing at all where it does not show anything.
      intro styled hidden
      obtain ⟨style, given⟩ := Option.isSome_iff_exists.mp styled
      rw [given] at hidden ⊢
      rw [← field.shows_ownColumn_iff] at hidden
      rcases style.apply_cases field.plainName with ⟨_, empty⟩ | ⟨_, shown⟩
      · exact empty
      · exact absurd shown hidden
    · rintro ⟨char, inside, letter⟩
      exact Field.not_isBare inside letter _

/-- A declaration in snake case with given fields. -/
def inSnakeCase (fields : List Field) : Declaration where
  attributes := [⟨"tessera", .listed [.word "rename_all", .equals, .string "snake_case"]⟩]
  body := .named fields

/-- A field whose name is made of underscores is bare in snake case, and one with letters in its
name has a column that shows something. -/
theorem blank_columns_are_of_bare_fields_in_snake_case :
    let fields : List Field := [⟨"__", []⟩, ⟨"userId", []⟩]
    (inSnakeCase fields).insertable = .ok [⟨"", "__"⟩, ⟨"user_id", "userId"⟩] ∧
      Field.IsBare (some .snake) ⟨"__", []⟩ ∧ Shows "user_id".toList := by
  intro fields
  have accepted : (inSnakeCase fields).insertable = .ok [⟨"", "__"⟩, ⟨"user_id", "userId"⟩] := by
    decide +kernel
  obtain ⟨fields', entries, body, lists, each⟩ := blank_columns_are_of_bare_fields accepted
  obtain rfl : fields = fields' := Body.named.inj body
  -- The only entry of the declaration sets the style.
  have read : entriesOf (inSnakeCase fields).attributes =
      .ok [⟨"rename_all", some "snake_case"⟩] := by
    decide +kernel
  rw [entriesOf_eq_ok_iff.mpr lists, Except.ok.injEq] at read
  subst read
  obtain ⟨⟨_, _, blank, _⟩, ⟨⟨_, _, _, _, letters⟩, _⟩⟩ := by
    simpa only [fields, List.forall₂_cons] using each
  have hidden : ¬Shows "".toList := by simp [Shows]
  exact ⟨accepted, (blank.mp hidden).2, letters ⟨'u', by decide +kernel, by decide⟩⟩

/-- Not every column of a declaration that is accepted shows something: a field whose name is made
of underscores is written to an empty column. -/
theorem not_every_accepted_column_shows :
    ¬∀ (declaration : Declaration) (written : List WrittenField),
      declaration.insertable = .ok written →
        ∀ field ∈ written, Shows field.column.toList := by
  intro every
  -- A name of underscores has no words, and the rule makes nothing of no words.
  have accepted : (inSnakeCase [⟨"__", []⟩]).insertable = .ok [⟨"", "__"⟩] := by decide +kernel
  have shown := every _ _ accepted _ List.mem_cons_self
  simp [Shows] at shown

end RowQuery.Mapping
