/-! Sets of code points, written as closed ranges and as evenly spaced runs. -/

namespace RowQuery.Unicode

/-- Whether a code point lies in one of the closed ranges. -/
def inRanges (ranges : List (Nat × Nat)) (code : Nat) : Bool :=
  ranges.any fun range => range.1 ≤ code && code ≤ range.2

/-- Code points from `first` to `last` that are `step` apart. -/
structure CodeRun where
  first : Nat
  last : Nat
  step : Nat
  deriving DecidableEq, Repr

/-- Whether a code point belongs to a run. -/
def CodeRun.contains (run : CodeRun) (code : Nat) : Bool :=
  run.first ≤ code && code ≤ run.last && (code - run.first) % run.step == 0

/-- Whether a code point belongs to one of the runs. -/
def inRuns (runs : List CodeRun) (code : Nat) : Bool :=
  runs.any fun run => run.contains code

end RowQuery.Unicode
