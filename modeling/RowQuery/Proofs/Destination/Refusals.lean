import RowQuery.Proofs.Destination.Addresses
import RowQuery.Proofs.Destination.Assignments

/-!
What rows and destinations are refused for. A row that could be had is refused for its length or for
its first value that does not fit, and for nothing else; destinations cannot take any row if there
is a sequence among them, and the first one is named.
-/

namespace RowQuery

/-- The complaint about a row with so many values for so many cells. -/
def Error.ofLengths (given width : Nat) : Error :=
  .driver ("expected " ++ toString given ++ " destination arguments in scan, not " ++
    toString width)

/-- Why a row is refused by cells. -/
inductive Cell.Refuses (cells : List Cell) : Except Error (List Value) → Error → Prop where
  /-- The row could not be had. -/
  | missing {error : Error} : Refuses cells (.error error) error
  /-- It has too many or too few values. -/
  | length {values : List Value} :
    values.length ≠ cells.length →
    Refuses cells (.ok values) (.ofLengths values.length cells.length)
  /-- One of its values is the first that does not fit. -/
  | value {values : List Value} {position : Nat} {mismatch : TypeMismatch} :
    values.length = cells.length → FirstUnfit cells values position mismatch →
    Refuses cells (.ok values) (.decode (toString position) (Error.typeMismatch mismatch).message)

/-- A row with a value for every cell is refused for a value only. -/
theorem Cell.Refuses.of_aligned {cells : List Cell} {values : List Value} {error : Error}
    (refuses : Refuses cells (.ok values) error) (aligned : values.length = cells.length) :
    ∃ position mismatch, FirstUnfit cells values position mismatch ∧
      error = .decode (toString position) (Error.typeMismatch mismatch).message := by
  cases refuses with
  | length misaligned => exact absurd aligned misaligned
  | value _ unfit => exact ⟨_, _, unfit, rfl⟩

namespace Destination

/-- The number of cells that several destinations have together. -/
def totalWidth : List Destination → Nat
  | [] => 0
  | destination :: rest => destination.leaves.length + totalWidth rest

/-- It is the number of their leaves. -/
theorem length_leavesOfAll (destinations : List Destination) :
    (leavesOfAll destinations).length = totalWidth destinations := by
  induction destinations with
  | nil => rfl
  | cons destination rest ih => rw [leavesOfAll, List.length_append, ih, totalWidth]

section Row

variable {destinations : List Destination} {row : Except Error (List Value)} {error : Error}

/-- What is a reason to refuse a row is what becomes of it. -/
theorem receive_of_refuses (flat : areFlat destinations = true)
    (refuses : Cell.Refuses (leavesOfAll destinations) row error) :
    (receive destinations row).1 = .error error := by
  -- Each reason is looked for where the ones before it have been ruled out.
  cases refuses with
  | missing => simp [receive, flatten_of_areFlat flat]
  | length misaligned =>
    rw [(receive_of_areFlat flat _).1, Cell.assignAll, if_neg (Ne.symm misaligned)]
    rfl
  | value aligned unfit =>
    obtain ⟨assigned, _, _, walk⟩ := Cell.assignFrom_of_firstUnfit 0 unfit
    rw [(receive_of_areFlat flat _).1, Cell.assignAll_of_aligned aligned, walk, Nat.zero_add]

/-- A row that fails to be laid over flat destinations is refused by their leaves, for some
reason. -/
theorem exists_refuses (flat : areFlat destinations = true)
    (refused : ¬ Accepts destinations row) :
    ∃ error, Cell.Refuses (leavesOfAll destinations) row error := by
  -- The row, its length and its values are looked at in this order.
  cases row with
  | error error => exact ⟨error, .missing⟩
  | ok values =>
    by_cases aligned : values.length = (leavesOfAll destinations).length
    · have unfit : ¬ List.Forall₂ Cell.Fits (leavesOfAll destinations) values :=
        fun fits => refused ⟨flat, values, rfl, fits⟩
      obtain ⟨position, mismatch, first⟩ := Cell.exists_firstUnfit aligned.symm unfit
      exact ⟨_, .value aligned first⟩
    · exact ⟨_, .length aligned⟩

/-- A row laid over flat destinations fails exactly for what their leaves refuse it for. -/
theorem receive_eq_error_iff (flat : areFlat destinations = true) :
    (receive destinations row).1 = .error error ↔
      Cell.Refuses (leavesOfAll destinations) row error := by
  constructor
  · intro failed
    have refused : ¬ Accepts destinations row := by
      intro accepted
      obtain ⟨filled, received, _⟩ := receive_of_accepts accepted
      simp [received] at failed
    -- There is a reason, and it is the one that is told.
    obtain ⟨reason, refuses⟩ := exists_refuses flat refused
    have told := receive_of_refuses flat refuses
    rw [failed, Except.error.injEq] at told
    exact told ▸ refuses
  · exact receive_of_refuses flat

end Row

section Sequences

variable {destinations : List Destination} {address other : List Nat}
  {found sequence : Destination}

/-- A sequence at an address keeps destinations from being flat. -/
theorem not_areFlat_of_isSequence (stands : atOfAll? destinations address = some found)
    (sequential : found.isSequence = true) : areFlat destinations = false := by
  by_contra flat
  rw [Bool.not_eq_false] at flat
  -- Without sequences only cells stand where no record does.
  obtain ⟨cell, rfl⟩ := exists_cell_of_mem_tipsFrom flat
    ((mem_tipsFrom_zero (ne_record_of_isSequence sequential)).mpr stands)
  simp [isSequence] at sequential

/-- There is at most one first sequence. -/
theorem IsFirstSequence.unique (first : IsFirstSequence destinations address found)
    (first' : IsFirstSequence destinations other sequence) : found = sequence := by
  by_cases same : other = address
  · rw [← Option.some_inj, ← first.stands, ← first'.stands, same]
  · -- Each of them would come before the other.
    have before := first.first other sequence first'.stands first'.isSequence same
    have behind := first'.first address found first.stands first.isSequence (Ne.symm same)
    rcases before with shorter | ⟨level, less⟩ <;> rcases behind with shorter' | ⟨level', less'⟩
    · omega
    · omega
    · omega
    · exact absurd less' (List.lt_asymm less)

/-- Flattening fails with the first sequence, and for nothing else. -/
theorem flatten_eq_error_iff {error : Error} :
    flatten destinations = .error error ↔
      ∃ address found, IsFirstSequence destinations address found ∧
        error = .unexpectedSequence found.kind := by
  constructor
  · exact exists_isFirstSequence
  · rintro ⟨address, found, first, rfl⟩
    -- A sequence stands in the way of success, and the one that is reported is the first.
    cases flattened : flatten destinations with
    | ok cells =>
      have flat := areFlat_of_flatten flattened
      rw [not_areFlat_of_isSequence first.stands first.isSequence] at flat
      contradiction
    | error reason =>
      obtain ⟨_, sequence, first', rfl⟩ := exists_isFirstSequence flattened
      rw [first'.unique first]

end Sequences

end Destination

end RowQuery
