import RowQuery.Mapping.Attribute
import RowQuery.Text.NameStyle
import RowQuery.Unicode.Blank

/-! Declarations of records, and the options that their attributes set. -/

namespace RowQuery.Mapping

open Text Unicode

/-- A named field, as written, with its attributes. -/
structure Field where
  name : String
  attributes : List Attribute := []
  deriving DecidableEq, Repr

/-- What is declared. -/
inductive Body where
  | named (fields : List Field)
  /-- A struct whose fields have no names, or that has none at all. -/
  | unnamed
  /-- An enumeration or a union. -/
  | notAStruct
  deriving DecidableEq, Repr

/-- A declaration with its attributes. -/
structure Declaration where
  attributes : List Attribute := []
  body : Body
  deriving DecidableEq, Repr

/-- The named fields of a declaration, which a derivation needs. -/
def Declaration.fieldsFor (declaration : Declaration) (derivation : Derivation) :
    Except Fault (List Field) :=
  match declaration.body with
  | .named fields => .ok fields
  | .unnamed => .error (.unnamedFields derivation)
  | .notAStruct => .error (.notAStruct derivation)

/-- The style that a renaming rule stands for. -/
def renamingRule (rule : String) : Except Fault NameStyle :=
  match rule with
  | "snake_case" => .ok .snake
  | "camelCase" => .ok .lowerCamel
  | "PascalCase" => .ok .upperCamel
  | "SCREAMING_SNAKE_CASE" => .ok .screamingSnake
  | other => .error (.unknownRule other)

/-- A column's name as it is given, which must not be blank. -/
def checkedColumn (given : String) : Except Fault String :=
  if given.toList.all isBlank then .error .blankColumn else .ok given

/-- The options of a whole declaration. -/
structure StructOptions where
  style : Option NameStyle := none
  deriving DecidableEq, Repr

/-- The options after one more entry; a later one wins. -/
def StructOptions.after (_options : StructOptions) (entry : Entry) : Except Fault StructOptions :=
  if entry.key = "rename_all" then do
    let rule ← entry.required
    let style ← renamingRule rule
    return ⟨some style⟩
  else .error (.unknownStructKey entry.key)

/-- The options that a declaration's attributes set. -/
def StructOptions.ofAttributes (attributes : List Attribute) : Except Fault StructOptions := do
  (← entriesOf attributes).foldlM StructOptions.after {}

/-- The options of a field. -/
structure FieldOptions where
  column : Option String := none
  isNested : Bool := false
  deriving DecidableEq, Repr

/-- The options after one more entry; a later column wins. -/
def FieldOptions.after (options : FieldOptions) (entry : Entry) : Except Fault FieldOptions :=
  if entry.key = "column" then do
    let given ← entry.required
    let column ← checkedColumn given
    return { options with column := some column }
  else if entry.key = "nested" then do
    entry.plain
    return { options with isNested := true }
  -- The keys of whole declarations are unknown here.
  else .error (.unknownFieldKey entry.key)

/-- The options that a field's attributes set. -/
def FieldOptions.ofAttributes (attributes : List Attribute) : Except Fault FieldOptions := do
  (← entriesOf attributes).foldlM FieldOptions.after {}

/-- A field's name without the mark that lets it be a keyword. -/
def Field.plainName (field : Field) : String :=
  match field.name.toList with
  | 'r' :: '#' :: rest => String.ofList rest
  | _ => field.name

/-- The column of a field: the one given, or else its name in the style of the declaration. -/
def Field.column (field : Field) (options : FieldOptions) (struct : StructOptions) : String :=
  match options.column, struct.style with
  | some column, _ => column
  | none, some style => style.apply field.plainName
  | none, none => field.plainName

end RowQuery.Mapping
