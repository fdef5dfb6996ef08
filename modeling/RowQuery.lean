import RowQuery.Connection.Memory
import RowQuery.Connection.Session
import RowQuery.Execution
import RowQuery.Mapping.Fields
import RowQuery.Pool.Basic
import RowQuery.Wire.Server
import RowQuery.Proofs.Destination.Cells
import RowQuery.Proofs.Destination.Rows
import RowQuery.Proofs.Destination.Addresses
import RowQuery.Proofs.Destination.Assignments
import RowQuery.Proofs.Execution.Growth
import RowQuery.Proofs.Condition.Shown
import RowQuery.Proofs.Statement.Shown
import RowQuery.Proofs.Statement.Alignment
import RowQuery.Proofs.Condition.Lexemes
import RowQuery.Proofs.Condition.Grammar
import RowQuery.Proofs.Condition.Meaning
import RowQuery.Proofs.Wire.Numbering
import RowQuery.Proofs.Execution.Requests
import RowQuery.Proofs.Execution.Shape
import RowQuery.Proofs.Condition.Essence
import RowQuery.Proofs.Condition.Spelling
import RowQuery.Proofs.Statement.Recovery
import RowQuery.Proofs.Number.BigEndian
import RowQuery.Proofs.Json.Lexical
import RowQuery.Proofs.Json.Reading
import RowQuery.Proofs.Wire.RoundTrip
import RowQuery.Proofs.Execution.Answers
import RowQuery.Proofs.Number.Precision
import RowQuery.Proofs.Number.Overflow
import RowQuery.Proofs.Execution.Serving
import RowQuery.Proofs.Value.Conversion
import RowQuery.Proofs.Mapping.Records
import RowQuery.Proofs.Wire.Serving
import RowQuery.Proofs.Wire.Acceptance
import RowQuery.Proofs.Execution.Disclosure
import RowQuery.Proofs.Execution.Reports
import RowQuery.Proofs.Text.Digits
import RowQuery.Proofs.Time.Calendar
import RowQuery.Proofs.Json.Numerals
import RowQuery.Proofs.Time.Reading
import RowQuery.Proofs.Value.Persistence
import RowQuery.Proofs.Statement.Persistence
import RowQuery.Proofs.Value.Inversion
import RowQuery.Proofs.Wire.Places
import RowQuery.Proofs.Destination.Refusals
import RowQuery.Proofs.Execution.Preflight
import RowQuery.Proofs.Execution.FirstRow
import RowQuery.Proofs.Condition.EmptyGroups
import RowQuery.Proofs.Condition.Equality
import RowQuery.Proofs.Text.ByteOrder
import RowQuery.Proofs.Statement.Tables
import RowQuery.Proofs.Log.Truncation
import RowQuery.Proofs.Wire.Cursor
import RowQuery.Proofs.Mapping.Options
import RowQuery.Proofs.Mapping.Columns
import RowQuery.Proofs.Mapping.BlankColumns
