import Mathlib.Data.List.SplitLengths
import RowQuery.Destination.Flatten

/-!
The cells of destinations. Flattening finds the leaves depth first unless a sequence is in the way,
and cells put back in their place are found again, each destination holding its own slice of them.
-/

namespace RowQuery.Destination

/-- The leaves of one list of destinations after another are those of both. -/
theorem leavesOfAll_append (left right : List Destination) :
    leavesOfAll (left ++ right) = leavesOfAll left ++ leavesOfAll right := by
  -- Leaves are concatenated destination by destination.
  induction left with
  | nil => simp [leavesOfAll]
  | cons destination rest ih => simp [leavesOfAll, ih]

mutual

/-- Whether a destination has a sequence nowhere in it. -/
def isFlat : Destination → Bool
  | .scalar _ => true
  | .record _ fields => areFlat fields
  | .sequence _ _ => false

/-- Whether several destinations have a sequence nowhere in them. -/
def areFlat : List Destination → Bool
  | [] => true
  | destination :: rest => destination.isFlat && areFlat rest

end

/-- One list of destinations after another is flat exactly if both are. -/
theorem areFlat_append (left right : List Destination) :
    areFlat (left ++ right) = (areFlat left && areFlat right) := by
  induction left with
  | nil => simp [areFlat]
  | cons destination rest ih => simp [areFlat, ih, Bool.and_assoc]

/-- Destinations that are all scalar are flat, and their cells are their leaves. -/
theorem scalarCells?_eq_some {destinations : List Destination} {cells : List Cell}
    (scalar : scalarCells? destinations = some cells) :
    areFlat destinations = true ∧ leavesOfAll destinations = cells := by
  induction destinations generalizing cells with
  | nil =>
    simp only [scalarCells?, Option.some.injEq] at scalar
    subst scalar
    simp [areFlat, leavesOfAll]
  | cons destination rest ih =>
    -- Only a scalar in front leaves the question to the rest.
    cases destination with
    | scalar cell =>
      simp only [scalarCells?, Option.map_eq_some_iff] at scalar
      obtain ⟨later, found, rfl⟩ := scalar
      obtain ⟨flat, same⟩ := ih found
      simp [areFlat, isFlat, leavesOfAll, leaves, flat, same]
    | record kind fields => simp [scalarCells?] at scalar
    | sequence element rows => simp [scalarCells?] at scalar

/-- A pass over flat destinations succeeds, and neither flatness nor leaves change. -/
theorem expandOnce_of_areFlat {destinations : List Destination}
    (flat : areFlat destinations = true) :
    ∃ expanded, expandOnce destinations = .ok expanded ∧ areFlat expanded = true ∧
      leavesOfAll expanded = leavesOfAll destinations := by
  induction destinations with
  | nil => exact ⟨[], rfl, rfl, rfl⟩
  | cons destination rest ih =>
    simp only [areFlat, Bool.and_eq_true] at flat
    obtain ⟨first, later⟩ := flat
    obtain ⟨tail, pass, tailFlat, same⟩ := ih later
    cases destination with
    | scalar cell =>
      exact ⟨.scalar cell :: tail, by simp [expandOnce, pass, Except.map],
        by simpa [areFlat, isFlat] using tailFlat, by simp [leavesOfAll, same]⟩
    | record kind fields =>
      -- The fields take the place of the record, whose leaves were theirs all along.
      have fieldsFlat : areFlat fields = true := by simpa [isFlat] using first
      exact ⟨fields ++ tail, by simp [expandOnce, pass, Except.map],
        by simp [areFlat_append, fieldsFlat, tailFlat],
        by simp [leavesOfAll_append, leavesOfAll, leaves, same]⟩
    | sequence element rows => simp [isFlat] at first

/-- A pass over destinations with a sequence in them fails or leaves one in them. -/
theorem areFlat_of_expandOnce {destinations expanded : List Destination}
    (pass : expandOnce destinations = .ok expanded) (flat : areFlat expanded = true) :
    areFlat destinations = true := by
  induction destinations generalizing expanded with
  | nil => rfl
  | cons destination rest ih =>
    -- A pass that succeeds has met no sequence at the top, and the rest is as flat as before.
    obtain ⟨tail, later, ⟨cell, rfl, rfl⟩ | ⟨kind, fields, rfl, rfl⟩⟩ :=
      eq_append_of_expandOnce pass
    · have tailFlat : areFlat tail = true := by simpa [areFlat, isFlat] using flat
      simpa [areFlat, isFlat] using ih later tailFlat
    · simp only [areFlat_append, Bool.and_eq_true] at flat
      simp [areFlat, isFlat, flat.1, ih later flat.2]

/-- Scalar destinations are flattened by taking their cells. -/
theorem flatten_of_scalarCells? {destinations : List Destination} {cells : List Cell}
    (scalar : scalarCells? destinations = some cells) : flatten destinations = .ok cells := by
  rw [flatten]
  -- The walk ends at once, so it is opened only this far.
  split
  · rename_i found scalar'
    rw [scalar, Option.some.injEq] at scalar'
    rw [scalar']
  · rename_i none
    simp [scalar] at none

/-- Other destinations are flattened by one pass and what it leads to. -/
theorem flatten_of_not_scalar {destinations : List Destination}
    (none : scalarCells? destinations = none) :
    flatten destinations = (expandOnce destinations).bind flatten := by
  rw [flatten]
  -- The cells are missing by assumption, so the pass decides.
  split
  · rename_i found
    simp [none] at found
  · split
    · rename_i failed
      rw [failed, Except.bind]
    · rename_i pass
      rw [pass, Except.bind]

/-- Flat destinations flatten to their leaves, depth first. -/
theorem flatten_of_areFlat {destinations : List Destination}
    (flat : areFlat destinations = true) :
    flatten destinations = .ok (leavesOfAll destinations) := by
  -- The induction follows the passes, each of which keeps both flatness and leaves.
  induction destinations using flatten.induct with
  | case1 destinations cells scalar =>
    rw [flatten_of_scalarCells? scalar, (scalarCells?_eq_some scalar).2]
  | case2 destinations none error pass =>
    obtain ⟨expanded, pass', _⟩ := expandOnce_of_areFlat flat
    simp [pass] at pass'
  | case3 destinations none expanded pass ih =>
    obtain ⟨expanded', pass', stillFlat, same⟩ := expandOnce_of_areFlat flat
    obtain rfl : expanded = expanded' := by simpa [pass] using pass'
    rw [flatten_of_not_scalar none, pass, Except.bind, ih stillFlat, same]

/-- Destinations that flatten have no sequence in them. -/
theorem areFlat_of_flatten {destinations : List Destination} {cells : List Cell}
    (flattened : flatten destinations = .ok cells) : areFlat destinations = true := by
  -- A sequence would survive every pass until one refuses it.
  induction destinations using flatten.induct with
  | case1 destinations cells scalar => exact (scalarCells?_eq_some scalar).1
  | case2 destinations none error pass =>
    simp [flatten_of_not_scalar none, pass, Except.bind] at flattened
  | case3 destinations none expanded pass ih =>
    rw [flatten_of_not_scalar none, pass, Except.bind] at flattened
    exact areFlat_of_expandOnce pass (ih flattened)

/-- Flattening succeeds exactly without sequences, and then it finds the leaves. -/
theorem flatten_eq_ok_iff {destinations : List Destination} {cells : List Cell} :
    flatten destinations = .ok cells ↔
      areFlat destinations = true ∧ leavesOfAll destinations = cells := by
  -- Success shows that there are no sequences, and without them the result is known.
  constructor
  · intro flattened
    have flat := areFlat_of_flatten flattened
    rw [flatten_of_areFlat flat, Except.ok.injEq] at flattened
    exact ⟨flat, flattened⟩
  · rintro ⟨flat, rfl⟩
    exact flatten_of_areFlat flat

mutual

/-- The destination before anything is assigned to its own cells. -/
def blank : Destination → Destination
  | .scalar cell => .scalar (.fresh cell.type)
  | .record kind fields => .record kind (blankAll fields)
  | .sequence element rows => .sequence element rows

/-- Several destinations before anything is assigned to their own cells. -/
def blankAll : List Destination → List Destination
  | [] => []
  | destination :: rest => destination.blank :: blankAll rest

end

/-- Several destinations are blanked one by one. -/
theorem blankAll_eq_map (destinations : List Destination) :
    blankAll destinations = destinations.map blank := by
  -- The walk over the list is that of the map.
  induction destinations with
  | nil => rfl
  | cons destination rest ih => rw [blankAll, ih, List.map_cons]

mutual

/-- A blank destination has fresh cells of the same types. -/
theorem leaves_blank (destination : Destination) :
    destination.blank.leaves = destination.leaves.map fun cell => .fresh cell.type := by
  cases destination with
  | scalar cell => rfl
  | record kind fields => exact leavesOfAll_blankAll fields
  | sequence element rows => rfl

/-- Blank destinations have fresh cells of the same types. -/
theorem leavesOfAll_blankAll (destinations : List Destination) :
    leavesOfAll (blankAll destinations) =
      (leavesOfAll destinations).map fun cell => .fresh cell.type := by
  cases destinations with
  | nil => rfl
  | cons destination rest =>
    rw [blankAll, leavesOfAll, leavesOfAll, leaves_blank destination, leavesOfAll_blankAll rest,
      List.map_append]

end

mutual

/-- A destination is flat exactly if it is so when blank. -/
theorem isFlat_blank (destination : Destination) :
    destination.blank.isFlat = destination.isFlat := by
  cases destination with
  | scalar cell => rfl
  | record kind fields => exact areFlat_blankAll fields
  | sequence element rows => rfl

/-- Destinations are flat exactly if they are so when blank. -/
theorem areFlat_blankAll (destinations : List Destination) :
    areFlat (blankAll destinations) = areFlat destinations := by
  cases destinations with
  | nil => rfl
  | cons destination rest =>
    rw [blankAll, areFlat, areFlat, isFlat_blank destination, areFlat_blankAll rest]

end

/-- Destinations that differ in contents only have cells of the same types. -/
theorem map_type_of_blankAll {left right : List Destination}
    (same : blankAll left = blankAll right) :
    (leavesOfAll left).map Cell.type = (leavesOfAll right).map Cell.type := by
  have fresh := congrArg (fun blanks => (leavesOfAll blanks).map Cell.type) same
  simpa [leavesOfAll_blankAll, Function.comp_def, Cell.fresh] using fresh

mutual

/-- Refilling takes as many cells as there are leaves and hands the others on. -/
theorem refill_snd (destination : Destination) (cells : List Cell) :
    (destination.refill cells).2 = cells.drop destination.leaves.length := by
  cases destination with
  | scalar cell => cases cells <;> simp [refill, leaves]
  | record kind fields => simp [refill, leaves, refillEach_snd fields cells]
  | sequence element rows => simp [refill, leaves]

/-- Refilling several destinations hands on the cells that none of them takes. -/
theorem refillEach_snd (destinations : List Destination) (cells : List Cell) :
    (refillEach destinations cells).2 = cells.drop (leavesOfAll destinations).length := by
  cases destinations with
  | nil => simp [refillEach, leavesOfAll]
  | cons destination rest =>
    -- What the first destination hands on is what the rest start from.
    simp [refillEach, leavesOfAll, refill_snd destination cells, refillEach_snd rest,
      List.drop_drop]

end

mutual

/-- A destination refilled with enough cells has the first of them as its leaves. -/
theorem leaves_refill (destination : Destination) (cells : List Cell)
    (enough : destination.leaves.length ≤ cells.length) :
    (destination.refill cells).1.leaves = cells.take destination.leaves.length := by
  -- A record hands its cells to its fields, and a sequence has no leaves to refill.
  cases destination with
  | scalar cell =>
    cases cells with
    | nil => simp [leaves] at enough
    | cons first rest => simp [refill, leaves]
  | record kind fields =>
    simp only [leaves] at enough
    simp [refill, leaves, leavesOfAll_refillEach fields cells enough]
  | sequence element rows => simp [refill, leaves]

/-- Several destinations refilled with enough cells have the first of them as their leaves. -/
theorem leavesOfAll_refillEach (destinations : List Destination) (cells : List Cell)
    (enough : (leavesOfAll destinations).length ≤ cells.length) :
    leavesOfAll (refillEach destinations cells).1 =
      cells.take (leavesOfAll destinations).length := by
  cases destinations with
  | nil => simp [refillEach, leavesOfAll]
  | cons destination rest =>
    simp only [leavesOfAll, List.length_append] at enough
    have first := leaves_refill destination cells (by omega)
    have others := leavesOfAll_refillEach rest (cells.drop destination.leaves.length)
      (by simp; omega)
    simp only [refillEach, leavesOfAll, refill_snd, first, others, List.length_append]
    -- Two slices side by side are one.
    rw [List.take_add]

end

/-- Refilling a list of destinations refills the first, and the others with what it leaves. -/
theorem refillEach_cons (destination : Destination) (rest : List Destination)
    (cells : List Cell) :
    (refillEach (destination :: rest) cells).1 =
      (destination.refill cells).1 ::
        (refillEach rest (cells.drop destination.leaves.length)).1 := by
  simp [refillEach, refill_snd]

/-- Refilled destinations are as many as they were, whatever cells there are for them. -/
theorem length_refillEach (destinations : List Destination) (cells : List Cell) :
    (refillEach destinations cells).1.length = destinations.length := by
  induction destinations generalizing cells with
  | nil => rfl
  | cons destination rest ih => rw [refillEach_cons, List.length_cons, ih, List.length_cons]

/-- Destinations refilled with enough cells hold one slice of them each, cut by their widths. -/
theorem map_leaves_refillEach (destinations : List Destination) (cells : List Cell)
    (enough : (leavesOfAll destinations).length ≤ cells.length) :
    (refillEach destinations cells).1.map leaves =
      (destinations.map fun destination => destination.leaves.length).splitLengths cells := by
  induction destinations generalizing cells with
  | nil => simp [refillEach]
  | cons destination rest ih =>
    simp only [leavesOfAll, List.length_append] at enough
    -- The first slice is as wide as the first destination, and the rest are cut from what follows.
    have others := ih (cells.drop destination.leaves.length) (by simp; omega)
    rw [refillEach_cons, List.map_cons, List.map_cons, List.splitLengths_cons, others,
      leaves_refill destination cells (by omega)]

mutual

/-- Cells of the same types in front leave a destination what it is but for its contents. -/
theorem blank_refill (destination : Destination) {cells : List Cell} {others : List FieldType}
    (types : cells.map Cell.type = destination.leaves.map Cell.type ++ others) :
    (destination.refill cells).1.blank = destination.blank := by
  cases destination with
  | scalar cell =>
    cases cells with
    | nil => simp [leaves] at types
    | cons first rest =>
      -- The cell that is put in has the type of the one it replaces.
      simp only [leaves, List.map_cons, List.map_nil, List.cons_append, List.nil_append,
        List.cons.injEq] at types
      simp [refill, blank, types.1]
  | record kind fields =>
    simp only [leaves] at types
    simp [refill, blank, blankAll_refillEach fields types]
  | sequence element rows => simp [refill, blank]

/-- Cells of the same types in front leave several destinations what they are but for contents. -/
theorem blankAll_refillEach (destinations : List Destination) {cells : List Cell}
    {others : List FieldType}
    (types : cells.map Cell.type = (leavesOfAll destinations).map Cell.type ++ others) :
    blankAll (refillEach destinations cells).1 = blankAll destinations := by
  cases destinations with
  | nil => simp [refillEach, blankAll]
  | cons destination rest =>
    simp only [leavesOfAll, List.map_append, List.append_assoc] at types
    -- What the first destination leaves over begins with cells for the rest.
    have remaining : (cells.drop destination.leaves.length).map Cell.type =
        (leavesOfAll rest).map Cell.type ++ others := by
      rw [List.map_drop, types, List.drop_left' (by simp)]
    rw [refillEach_cons, blankAll, blankAll, blank_refill destination types,
      blankAll_refillEach rest remaining]

end

mutual

/-- A destination refilled with its own cells is what it was. -/
theorem refill_leaves (destination : Destination) (others : List Cell) :
    (destination.refill (destination.leaves ++ others)).1 = destination := by
  cases destination with
  | scalar cell => rfl
  | record kind fields => simp [refill, leaves, refillEach_leavesOfAll fields others]
  | sequence element rows => simp [refill]

/-- Several destinations refilled with their own cells are what they were. -/
theorem refillEach_leavesOfAll (destinations : List Destination) (others : List Cell) :
    (refillEach destinations (leavesOfAll destinations ++ others)).1 = destinations := by
  cases destinations with
  | nil => rfl
  | cons destination rest =>
    -- The first takes its own cells, so the rest start at theirs.
    rw [refillEach_cons, leavesOfAll, List.append_assoc, refill_leaves destination,
      List.drop_left, refillEach_leavesOfAll rest others]

end

/-- Destinations with their own cells in place are what they were. -/
theorem withCells_leavesOfAll (destinations : List Destination) :
    withCells destinations (leavesOfAll destinations) = destinations := by
  have refilled := refillEach_leavesOfAll destinations []
  rwa [List.append_nil] at refilled

/-- Cells of the same types, put in the places of the old ones, are the new leaves, and nothing else
changes. -/
theorem leavesOfAll_withCells {destinations : List Destination} {cells : List Cell}
    (types : cells.map Cell.type = (leavesOfAll destinations).map Cell.type) :
    leavesOfAll (withCells destinations cells) = cells ∧
      blankAll (withCells destinations cells) = blankAll destinations := by
  -- Cells of the same types are as many as the leaves.
  have aligned : cells.length = (leavesOfAll destinations).length := by
    simpa using congrArg List.length types
  refine ⟨?_, blankAll_refillEach destinations (by rw [List.append_nil, types])⟩
  rw [withCells, leavesOfAll_refillEach destinations cells (by omega),
    List.take_of_length_le (by omega)]

end RowQuery.Destination
