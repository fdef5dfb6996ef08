import RowQuery.Text.Words
import RowQuery.Unicode.CaseMapping

/-! Spellings of a name by the case of its words and by what stands between them. -/

namespace RowQuery.Text

open Unicode

/-- A word in small letters; a capital sigma at its end takes the final form. -/
def lowerWord : List Char → List Char
  | [] => []
  | ['Σ'] => ['ς']
  | char :: rest => toLowercase char ++ lowerWord rest

/-- A word in capitals. -/
def upperWord (word : List Char) : List Char :=
  word.flatMap toUppercase

/-- A word whose first character alone is a capital. -/
def capitalWord : List Char → List Char
  | [] => []
  | first :: rest => toUppercase first ++ lowerWord rest

/-- The spellings a name can be given. -/
inductive NameStyle where
  | snake
  | lowerCamel
  | upperCamel
  | screamingSnake
  deriving DecidableEq, Repr

/-- A name with its words spelled in the style. -/
def NameStyle.apply (style : NameStyle) (name : String) : String :=
  String.ofList <|
    match style with
    | .snake => ['_'].intercalate ((words name).map lowerWord)
    | .screamingSnake => ['_'].intercalate ((words name).map upperWord)
    | .upperCamel => (words name).flatMap capitalWord
    | .lowerCamel =>
      -- Only the first word starts small, so it is told apart.
      match words name with
      | [] => []
      | first :: rest => lowerWord first ++ rest.flatMap capitalWord

end RowQuery.Text
