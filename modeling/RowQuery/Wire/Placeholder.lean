/-!
Placeholders: question marks outside quotes are numbered with a dollar sign. They are counted in 32
bits, which more than two thousand million of them overflow.
-/

namespace RowQuery.Wire

/-- Where a scan of a statement stands: inside which quote, and after how many placeholders. -/
structure PlaceholderScan where
  quote : Option Char := none
  count : Int32 := 0
  deriving DecidableEq, Repr

namespace PlaceholderScan

/-- Whether a character opens a quotation. -/
def opens (char : Char) : Bool :=
  char = '\'' || char = '"'

/-- Where the scan stands after a character. A doubled quote inside closes and opens again. -/
def after (scan : PlaceholderScan) (char : Char) : PlaceholderScan :=
  match scan.quote with
  | some quote => if char = quote then { scan with quote := none } else scan
  | none =>
    if opens char then { scan with quote := some char }
    -- Only outside of quotations is a question mark a place.
    else if char = '?' then { scan with count := scan.count + 1 }
    else scan

/-- What stands for a character. -/
def written (scan : PlaceholderScan) (char : Char) : List Char :=
  if scan.quote = none ∧ char = '?' then '$' :: (toString (scan.count + 1)).toList else [char]

/-- What stands for the rest of a statement. -/
def numbered (scan : PlaceholderScan) : List Char → List Char
  | [] => []
  | char :: rest => scan.written char ++ (scan.after char).numbered rest

/-- Whether the rest of a statement has more placeholders than can still be counted. -/
def overflows (scan : PlaceholderScan) : List Char → Bool
  | [] => false
  | char :: rest =>
    scan.quote = none && char = '?' && scan.count = Int32.maxValue || (scan.after char).overflows rest

end PlaceholderScan

/-- The statement with numbered placeholders in place of its unquoted question marks, as a program
writes it that does not check for overflow: behind the largest number it goes on with the least. -/
def numberPlaceholders (sql : String) : String :=
  String.ofList (PlaceholderScan.numbered {} sql.toList)

/-- The statement with numbered placeholders, as a program writes it that checks for overflow: it
stops at the first placeholder that cannot be counted, and then there is no text. -/
def numberPlaceholders? (sql : String) : Option String :=
  if PlaceholderScan.overflows {} sql.toList then none else some (numberPlaceholders sql)

end RowQuery.Wire
