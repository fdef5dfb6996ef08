import RowQuery.Value.FieldType

/-! What can go wrong between a statement and its destinations. -/

namespace RowQuery

/-- A failure of a statement, of its execution or of the transfer of a row. -/
inductive Error where
  | connection (reason : String)
  | query (reason : String)
  | driver (reason : String)
  | notFound (reason : String)
  | uniqueViolation (reason : String)
  | foreignKeyViolation (reason : String)
  | checkViolation (reason : String)
  | decode (column : String) (reason : String)
  | typeMismatch (mismatch : TypeMismatch)
  | notASequence (index : Nat) (kind : String)
  | unexpectedSequence (kind : String)
  | arity (expected got : Nat)
  | validation (reason : String)
  | pool (reason : String)
  deriving DecidableEq, Repr

namespace Error

/-- The text of an error. -/
def message : Error → String
  | .connection reason => "Connection error: " ++ reason
  | .query reason => "Query error: " ++ reason
  | .driver reason => "Driver error: " ++ reason
  | .notFound reason => "Not found: " ++ reason
  | .uniqueViolation reason => "Unique constraint violation: " ++ reason
  | .foreignKeyViolation reason => "Foreign key violation: " ++ reason
  | .checkViolation reason => "Check constraint violation: " ++ reason
  | .decode column reason => "Decode error on column '" ++ column ++ "': " ++ reason
  | .typeMismatch mismatch =>
    "Type mismatch: expected " ++ mismatch.expected ++ ", found " ++ mismatch.found
  | .notASequence index kind =>
    "Destination " ++ toString index ++ " must be a sequence to receive multiple rows, got " ++ kind
  | .unexpectedSequence kind => "Sequence destination " ++ kind ++ " cannot receive a single row"
  | .arity expected got =>
    "Arity mismatch: statement selects " ++ toString expected ++
      " columns, destinations provide " ++ toString got
  | .validation reason => "Validation error: " ++ reason
  | .pool reason => "Pool error: " ++ reason

/-- Whether a unique constraint was violated. -/
def violatesUniqueness : Error → Bool
  | .uniqueViolation _ => true
  | _ => false

/-- Whether there was no row. -/
def reportsAbsence : Error → Bool
  | .notFound _ => true
  | _ => false

/-- Whether the destinations have the wrong shape for the statement. -/
def concernsShape : Error → Bool
  | .notASequence _ _ | .unexpectedSequence _ | .arity _ _ => true
  | _ => false

end Error

end RowQuery
