import RowQuery.Unicode.Alphanumeric
import RowQuery.Unicode.Cased

/-! The words of a name, found at separators and at changes of case. -/

namespace RowQuery.Text

open Unicode

/-- The case of the latest cased character of the word being read. -/
inductive CaseRun where
  | none
  | lower
  | upper
  deriving DecidableEq, Repr

/-- The case run after one more character. -/
def CaseRun.after (run : CaseRun) (char : Char) : CaseRun :=
  if isLowercase char then .lower
  else if isUppercase char then .upper
  else run

/-- Splits letters and numbers at changes of case, continuing the word read so far. -/
def splitCased (run : CaseRun) (word : List Char) : List Char → List (List Char)
  | [] => if word = [] then [] else [word]
  | [last] => [word ++ [last]]
  | current :: next :: rest =>
    if run.after current = .lower ∧ isUppercase next then
      -- A capital after a small letter begins a word.
      (word ++ [current]) :: splitCased .none [] (next :: rest)
    else if run = .upper ∧ isUppercase current ∧ isLowercase next then
      -- The last capital of several belongs to the small letter that follows.
      word :: splitCased .none [current] (next :: rest)
    else splitCased (run.after current) (word ++ [current]) (next :: rest)

/-- The words of a name, in order. -/
def words (name : String) : List (List Char) :=
  (name.toList.splitOnP fun char => !isAlphanumeric char).flatMap (splitCased .none [])

end RowQuery.Text
