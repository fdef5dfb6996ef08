import RowQuery.Mapping.Fault

/-! Attributes of declarations, and the entries that their arguments list. -/

namespace RowQuery.Mapping

/-- A token of an attribute's arguments. -/
inductive Token where
  /-- An identifier or a keyword, as written. -/
  | word (written : String)
  | string (value : String)
  /-- A number or another literal that is no string. -/
  | literal (written : String)
  | equals
  | comma
  /-- Anything in parentheses. -/
  | parenthesized
  /-- Any other token. -/
  | punctuation (written : String)
  deriving DecidableEq, Repr

/-- What follows the name of an attribute. -/
inductive Arguments where
  | absent
  | assigned
  | listed (tokens : List Token)
  deriving DecidableEq, Repr

/-- An attribute of a declaration or of a field. -/
structure Attribute where
  path : String
  arguments : Arguments
  deriving DecidableEq, Repr

/-- The name of the attributes that direct a mapping. -/
def attributeName : String := "tessera"

/-- The words that are no identifiers. -/
def keywords : List String := [
  "_", "abstract", "as", "async", "await", "become", "box", "break", "const", "continue", "crate",
  "do", "dyn", "else", "enum", "extern", "false", "final", "fn", "for", "if", "impl", "in", "let",
  "loop", "macro", "match", "mod", "move", "mut", "override", "priv", "pub", "ref", "return",
  "Self", "self", "static", "struct", "super", "trait", "true", "try", "type", "typeof", "unsafe",
  "unsized", "use", "virtual", "where", "while", "yield"]

/-- A key with its value, if it has one. -/
structure Entry where
  key : String
  value : Option String
  deriving DecidableEq, Repr

/-- Reads the value of an entry, if an equals sign announces one. -/
def readValue : List Token → Except Fault (Option String × List Token)
  | .equals :: .string value :: rest => .ok (some value, rest)
  | .equals :: rest => .error (.stringMissing rest.isEmpty)
  | rest => .ok (none, rest)

/-- Reads one entry. -/
def readEntry : List Token → Except Fault (Entry × List Token)
  | .word key :: rest =>
    if keywords.contains key then .error (.keyword key)
    -- A key in the manner of a function is refused as such, and not for a missing comma.
    else if rest.head? = some .parenthesized then .error .functionStyle
    else (readValue rest).map fun read => (⟨key, read.1⟩, read.2)
  | _ => .error .identifierMissing

/-- Reading a value leaves no more tokens than there were. -/
theorem readValue_length {tokens : List Token} {read : Option String × List Token}
    (success : readValue tokens = .ok read) : read.2.length ≤ tokens.length := by
  -- A value takes the equals sign and its text off the front, and without one no token is taken.
  unfold readValue at success
  split at success
  · simp only [Except.ok.injEq] at success
    subst success
    simp only [List.length_cons]
    omega
  · simp at success
  · simp only [Except.ok.injEq] at success
    subst success
    exact Nat.le_refl _

/-- Reading an entry uses up at least its key. -/
theorem readEntry_length {tokens : List Token} {read : Entry × List Token}
    (success : readEntry tokens = .ok read) : read.2.length < tokens.length := by
  -- The key is gone by the time the value is read, which never gives tokens back.
  unfold readEntry at success
  split at success
  · next key rest =>
    split at success
    · simp at success
    · split at success
      · simp at success
      · cases value : readValue rest with
        | error fault => simp [value, Except.map] at success
        | ok pair =>
          simp only [value, Except.map, Except.ok.injEq] at success
          subst success
          exact Nat.lt_succ_of_le (readValue_length value)
  · simp at success

/-- Reads entries with commas between them; one may follow the last. -/
def readEntries (tokens : List Token) : Except Fault (List Entry) :=
  if tokens = [] then .ok []
  else
    match _ : readEntry tokens with
    | .error fault => .error fault
    | .ok (entry, []) => .ok [entry]
    -- There may be nothing behind the comma.
    | .ok (entry, .comma :: rest) => (readEntries rest).map (entry :: ·)
    | .ok (_, _ :: _) => .error .commaMissing
termination_by tokens.length
decreasing_by
  have shorter := readEntry_length (by assumption)
  simp only [List.length_cons] at shorter
  omega

/-- The entries of an attribute's arguments. -/
def Arguments.entries : Arguments → Except Fault (List Entry)
  | .absent => .error .argumentsMissing
  | .assigned => .error .argumentsAssigned
  | .listed tokens => readEntries tokens

/-- The entries of all attributes that direct a mapping, in order; others are passed over. -/
def entriesOf : List Attribute → Except Fault (List Entry)
  | [] => .ok []
  | first :: rest =>
    if first.path = attributeName then do
      let entries ← first.arguments.entries
      -- Nothing is interpreted before all of it has been read.
      let others ← entriesOf rest
      return entries ++ others
    else entriesOf rest

namespace Entry

/-- The value of an entry that needs one. -/
def required (entry : Entry) : Except Fault String :=
  match entry.value with
  | some value => .ok value
  | none => .error (.valueMissing entry.key)

/-- Refuses a value on an entry that takes none. -/
def plain (entry : Entry) : Except Fault Unit :=
  match entry.value with
  | some _ => .error (.valueUnexpected entry.key)
  | none => .ok ()

end Entry

end RowQuery.Mapping
