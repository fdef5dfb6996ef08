import RowQuery.Mapping.Declaration

/-!
The mappings derived from a declaration: the columns a record is written to, and the fields it is
read into.
-/

namespace RowQuery.Mapping

/-- A field and the column it is written to. -/
structure WrittenField where
  column : String
  field : String
  deriving DecidableEq, Repr

/-- The columns of fields, distinct from one another and from those before. -/
def writtenFields (struct : StructOptions) (before : List String) :
    List Field → Except Fault (List WrittenField)
  | [] => .ok []
  | field :: rest =>
    match FieldOptions.ofAttributes field.attributes with
    | .error fault => .error fault
    | .ok options =>
      let column := field.column options struct
      -- A nested field is refused before its column is compared with others.
      if options.isNested then .error .nestedField
      else if before.contains column then .error (.duplicateColumn column)
      else (writtenFields struct (before ++ [column]) rest).map (⟨column, field.name⟩ :: ·)

/-- The fields of a record that is written as one row, with their columns. -/
def Declaration.insertable (declaration : Declaration) : Except Fault (List WrittenField) := do
  let struct ← StructOptions.ofAttributes declaration.attributes
  let fields ← declaration.fieldsFor .insertable
  writtenFields struct [] fields

/-- A field of a record that receives rows: a cell, or a record of its own. -/
structure ReadField where
  isNested : Bool
  field : String
  deriving DecidableEq, Repr

/-- How a field is read into. -/
def Field.read (field : Field) : Except Fault ReadField := do
  let options ← FieldOptions.ofAttributes field.attributes
  return ⟨options.isNested, field.name⟩

/-- The fields of a record that receives rows; attributes of the whole declaration do not matter. -/
def Declaration.record (declaration : Declaration) : Except Fault (List ReadField) := do
  (← declaration.fieldsFor .record).mapM Field.read

end RowQuery.Mapping
