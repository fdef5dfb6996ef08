import RowQuery.Error
import RowQuery.Text.Quoted

/-! Destinations: typed cells, records of them and growable sequences of records. -/

namespace RowQuery

open Text

/-- A typed place that holds one value. -/
structure Cell where
  type : FieldType
  content : type.Content

namespace Cell

/-- A cell of a type before anything is assigned to it. -/
def fresh (type : FieldType) : Cell :=
  ⟨type, type.initial⟩

/-- What the cell holds, as a value. -/
def value (cell : Cell) : Value :=
  cell.type.toValue cell.content

/-- The cell after a value is assigned to it, if the value fits its type. -/
def assign (cell : Cell) (value : Value) : Except TypeMismatch Cell :=
  (cell.type.ofValue value).map fun content => ⟨cell.type, content⟩

end Cell

/-- A place that receives rows, or parts of them. -/
inductive Destination where
  /-- One cell. -/
  | scalar (cell : Cell)
  /-- Fields in the order of their declaration, under the name of the record's type. -/
  | record (kind : String) (fields : List Destination)
  /-- Elements, and the fresh element by which the sequence grows. -/
  | sequence (element : Destination) (rows : List Destination)

namespace Destination

/-- The name of the type of a destination. -/
def kind : Destination → String
  | .scalar cell => cell.type.fullName
  | .record kind _ => kind
  | .sequence element _ => "alloc::vec::Vec<" ++ element.kind ++ ">"

/-- Whether a destination is one cell. -/
def isScalar : Destination → Bool
  | .scalar _ => true
  | _ => false

/-- Whether a destination is a sequence. -/
def isSequence : Destination → Bool
  | .sequence _ _ => true
  | _ => false

/-- The word for the shape of a destination. -/
def shape : Destination → String
  | .scalar _ => "scalar"
  | .record _ _ => "record"
  | .sequence _ _ => "sequence"

/-- The description of a destination by its kind and its shape. -/
def description (destination : Destination) : String :=
  "Dest \x7b kind: " ++ quoted destination.kind ++ ", shape: " ++ quoted destination.shape ++
    " \x7d"

/-- A single cell of a type, not assigned yet. -/
def ofType (type : FieldType) : Destination :=
  .scalar (.fresh type)

/-- The name of a tuple of types; a comma tells a tuple of one from the type in parentheses. -/
def tupleKind : List FieldType → String
  | [type] => "(" ++ type.fullName ++ ",)"
  | types => "(" ++ ", ".intercalate (types.map FieldType.fullName) ++ ")"

/-- A record of nameless cells. -/
def tuple (types : List FieldType) : Destination :=
  .record (tupleKind types) (types.map ofType)

end Destination

end RowQuery
