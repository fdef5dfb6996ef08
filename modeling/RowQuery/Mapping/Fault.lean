/-! What can be wrong with a record's declaration. -/

namespace RowQuery.Mapping

/-- The two ways a record can be mapped to rows. -/
inductive Derivation where
  /-- The record is written as one row. -/
  | insertable
  /-- The record receives rows. -/
  | record
  deriving DecidableEq, Repr

/-- The name of a derivation. -/
def Derivation.name : Derivation → String
  | .insertable => "Insertable"
  | .record => "Record"

/-- A fault in a declaration. -/
inductive Fault where
  /-- An attribute has no arguments. -/
  | argumentsMissing
  /-- An attribute is assigned a value in place of arguments. -/
  | argumentsAssigned
  /-- An entry does not begin with an identifier. -/
  | identifierMissing
  /-- A keyword stands where an identifier is needed. -/
  | keyword (word : String)
  /-- An entry's key is followed by arguments. -/
  | functionStyle
  /-- A value is something other than a string. -/
  | stringMissing (atEnd : Bool)
  /-- Something other than a comma follows an entry. -/
  | commaMissing
  | unknownRule (rule : String)
  | unknownStructKey (key : String)
  | unknownFieldKey (key : String)
  | valueMissing (key : String)
  | valueUnexpected (key : String)
  /-- A column's name is empty or blank. -/
  | blankColumn
  | unnamedFields (derivation : Derivation)
  | notAStruct (derivation : Derivation)
  | nestedField
  | duplicateColumn (column : String)
  deriving DecidableEq, Repr

/-- The text of a fault. -/
def Fault.message : Fault → String
  | .argumentsMissing => "expected attribute arguments in parentheses: #[tessera(...)]"
  | .argumentsAssigned => "expected parentheses: #[tessera(...)]"
  | .identifierMissing => "expected identifier"
  | .keyword word => "expected identifier, found keyword `" ++ word ++ "`"
  | .functionStyle => "unexpected function-style attribute"
  | .stringMissing false => "expected string literal"
  | .stringMissing true => "unexpected end of input, expected string literal"
  | .commaMissing => "expected `,`"
  | .unknownRule rule =>
    "unknown rename_all rule '" ++ rule ++
      "' (expected snake_case, camelCase, PascalCase or SCREAMING_SNAKE_CASE)"
  | .unknownStructKey key => "unknown struct attribute `" ++ key ++ "`"
  | .unknownFieldKey key => "unknown field attribute `" ++ key ++ "`"
  | .valueMissing key => "`" ++ key ++ "` expects a string value"
  | .valueUnexpected key => "`" ++ key ++ "` does not take a value"
  | .blankColumn => "column must not be empty"
  | .unnamedFields derivation =>
    derivation.name ++ " can only be derived for structs with named fields"
  | .notAStruct derivation => derivation.name ++ " can only be derived for structs"
  | .nestedField => "Insertable writes one flat row; nested fields are not supported"
  | .duplicateColumn column => "duplicate column '" ++ column ++ "'"

end RowQuery.Mapping
