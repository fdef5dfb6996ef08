import RowQuery.Number.BigEndian
import RowQuery.Value.Basic

/-! The types of parameters and result columns. -/

namespace RowQuery.Wire

/-- A type of the server: one that is built in and that values can pass through, or another known by
its schema and its name only. -/
inductive WireType where
  | bool
  | int2
  | int4
  | int8
  | float4
  | float8
  | text
  | varchar
  | bpchar
  | name
  | unknown
  | bytea
  | uuid
  | timestamp
  | timestamptz
  | json
  | jsonb
  | other (schema typeName : String)
  deriving DecidableEq, Repr

namespace WireType

/-- The types that values can pass through, by the name the server has for them. -/
def named : List (String × WireType) :=
  [("bool", bool), ("int2", int2), ("int4", int4), ("int8", int8), ("float4", float4),
    ("float8", float8), ("text", text), ("varchar", varchar), ("bpchar", bpchar), ("name", name),
    ("unknown", unknown), ("bytea", bytea), ("uuid", uuid), ("timestamp", timestamp),
    ("timestamptz", timestamptz), ("json", json), ("jsonb", jsonb)]

/-- The type of a name, which if no values pass through it is taken to be built in too. -/
def ofTypeName (typeName : String) : WireType :=
  (named.lookup typeName).getD (other "pg_catalog" typeName)

/-- The server's name of a type. -/
def typeName : WireType → String
  | bool => "bool"
  | int2 => "int2"
  | int4 => "int4"
  | int8 => "int8"
  | float4 => "float4"
  | float8 => "float8"
  | text => "text"
  | varchar => "varchar"
  | bpchar => "bpchar"
  | name => "name"
  | unknown => "unknown"
  | bytea => "bytea"
  | uuid => "uuid"
  | timestamp => "timestamp"
  | timestamptz => "timestamptz"
  | json => "json"
  | jsonb => "jsonb"
  | other _ given => given

/-- The name of a type in messages. The schemas that are always searched are not shown with it. -/
def shownName : WireType → String
  | other schema given =>
    if schema = "pg_catalog" ∨ schema = "public" then given else schema ++ "." ++ given
  | builtIn => builtIn.typeName

end WireType

/-- The second from which the server counts time, the start of the year 2000. -/
def epochSecond : Int := 946684800

/-- Bytes in binary form; the absence of a value has none. -/
abbrev WireValue := Option (List UInt8)

end RowQuery.Wire
