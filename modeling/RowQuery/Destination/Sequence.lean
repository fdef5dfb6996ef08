import RowQuery.Destination.Basic

/-! Sequence destinations, which grow by one element for every row. -/

namespace RowQuery

/-- A sequence destination, by its fresh element and its elements. -/
structure RowSequence where
  element : Destination
  rows : List Destination

namespace RowSequence

/-- The sequence as a destination. -/
def toDestination (sequence : RowSequence) : Destination :=
  .sequence sequence.element sequence.rows

/-- The sequence with one more element. -/
def push (sequence : RowSequence) (element : Destination) : RowSequence :=
  { sequence with rows := sequence.rows ++ [element] }

/-- The sequence grown by its fresh element, which is then there to be filled. -/
def grow (sequence : RowSequence) : RowSequence :=
  sequence.push sequence.element

/-- The element a sequence has grown by last. -/
def newest (sequence : RowSequence) : Destination :=
  sequence.rows.getLastD sequence.element

/-- The sequence with its newest element filled. -/
def fill (sequence : RowSequence) (filled : Destination) : RowSequence :=
  { sequence with rows := sequence.rows.dropLast ++ [filled] }

/-- The sequence without its newest element. -/
def shrink (sequence : RowSequence) : RowSequence :=
  { sequence with rows := sequence.rows.dropLast }

/-- A sequence that has grown has its fresh element as its newest. -/
@[simp]
theorem newest_grow (sequence : RowSequence) : sequence.grow.newest = sequence.element := by
  simp [grow, push, newest]

/-- Shrinking takes back what was pushed last. -/
@[simp]
theorem shrink_push (sequence : RowSequence) (element : Destination) :
    (sequence.push element).shrink = sequence := by
  simp [push, shrink]

/-- Growing and then filling pushes the filled element. -/
@[simp]
theorem fill_grow (sequence : RowSequence) (filled : Destination) :
    sequence.grow.fill filled = sequence.push filled := by
  simp [grow, push, fill]

/-- The sequences behind destinations, counted from a position on; the first other is an error. -/
def ofDestinationsFrom (position : Nat) : List Destination → Except Error (List RowSequence)
  | [] => .ok []
  | .sequence element rows :: rest =>
    (ofDestinationsFrom (position + 1) rest).map (⟨element, rows⟩ :: ·)
  | destination :: _ => .error (.notASequence position destination.kind)

/-- The sequences behind destinations. -/
def ofDestinations (destinations : List Destination) : Except Error (List RowSequence) :=
  ofDestinationsFrom 0 destinations

/-- The sequences, each grown by its fresh element. -/
def growEach (sequences : List RowSequence) : List RowSequence :=
  sequences.map grow

/-- The newest element of every sequence. -/
def newestElements (sequences : List RowSequence) : List Destination :=
  sequences.map newest

/-- The sequences with their newest elements filled. -/
def fillEach (sequences : List RowSequence) (filled : List Destination) : List RowSequence :=
  List.zipWith fill sequences filled

/-- The sequences without their newest elements. -/
def shrinkEach (sequences : List RowSequence) : List RowSequence :=
  sequences.map shrink

/-- A fresh element of every sequence. -/
def freshElements (sequences : List RowSequence) : List Destination :=
  sequences.map element

/-- The sequences with one more element each. -/
def pushEach (sequences : List RowSequence) (elements : List Destination) : List RowSequence :=
  List.zipWith push sequences elements

/-- What sequences have grown by is a fresh element of each. -/
@[simp]
theorem newestElements_growEach (sequences : List RowSequence) :
    newestElements (growEach sequences) = freshElements sequences := by
  simp [newestElements, growEach, freshElements]

/-- Sequences that grow and shrink again are what they were. -/
@[simp]
theorem shrinkEach_growEach (sequences : List RowSequence) :
    shrinkEach (growEach sequences) = sequences := by
  simp [shrinkEach, growEach, grow, Function.comp_def]

/-- Growing sequences and then filling them pushes what they are filled with. -/
@[simp]
theorem fillEach_growEach (sequences : List RowSequence) (filled : List Destination) :
    fillEach (growEach sequences) filled = pushEach sequences filled := by
  simp [fillEach, growEach, pushEach, List.zipWith_map_left]

/-- Sequences that shrink after one element was pushed to each are what they were. -/
theorem shrinkEach_pushEach {sequences : List RowSequence} {elements : List Destination}
    (aligned : elements.length = sequences.length) :
    shrinkEach (pushEach sequences elements) = sequences := by
  -- The two lists are walked together; a sequence without an element of its own would be lost.
  induction sequences generalizing elements with
  | nil => simp [pushEach, shrinkEach]
  | cons sequence rest ih =>
    cases elements with
    | nil => simp at aligned
    | cons element elements =>
      have others := ih (by simpa using aligned)
      simp only [shrinkEach, pushEach, List.zipWith_cons_cons, List.map_cons, shrink_push]
        at others ⊢
      rw [others]

end RowSequence

end RowQuery
