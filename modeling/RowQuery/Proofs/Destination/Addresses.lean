import RowQuery.Proofs.Destination.Rows

/-!
Addresses inside destinations. A destination that is no record is found at one address, and the
order of addresses is the order of declaration, depth first. Flattening takes the cells in that
order, and if sequences are in its way it reports the one with the shortest address, of equally
short ones the first.
-/

namespace RowQuery.Destination

/-- The destination at an address inside another: at the position of a field, then at that of one of
its fields, and so on. Nothing inside a sequence has an address. -/
def at? : Destination → List Nat → Option Destination
  | destination, [] => some destination
  | .record _ fields, position :: address =>
    fields[position]?.bind fun field => field.at? address
  | _, _ :: _ => none

/-- The destination at an address that begins with a position among several. -/
def atOfAll? (destinations : List Destination) : List Nat → Option Destination
  | [] => none
  | position :: address => destinations[position]?.bind fun destination => destination.at? address

mutual

/-- The cells and sequences of a destination, depth first, each with its address. -/
def tips : Destination → List (List Nat × Destination)
  | .scalar cell => [([], .scalar cell)]
  | .record _ fields => tipsFrom 0 fields
  | .sequence element rows => [([], .sequence element rows)]

/-- The cells and sequences of several destinations, counted from a position on. -/
def tipsFrom (position : Nat) : List Destination → List (List Nat × Destination)
  | [] => []
  | destination :: rest =>
    (destination.tips.map fun tip => (position :: tip.1, tip.2)) ++ tipsFrom (position + 1) rest

end

mutual

/-- The tips of a destination are what stands in it and is no record. -/
theorem mem_tips {destination : Destination} {address : List Nat} {tip : Destination} :
    (address, tip) ∈ destination.tips ↔
      destination.at? address = some tip ∧ ∀ kind fields, tip ≠ .record kind fields := by
  cases destination with
  | scalar cell =>
    -- A cell stands at its own address, and nothing stands below it.
    cases address with
    | nil => simp only [tips, at?]; grind
    | cons position address => simp [tips, at?]
  | record kind fields =>
    cases address with
    | nil =>
      -- The record itself is no tip, and its tips have longer addresses.
      constructor
      · intro member
        obtain ⟨offset, below, same, _⟩ := mem_tipsFrom.mp member
        simp at same
      · rintro ⟨stands, noRecord⟩
        exact absurd (Option.some.inj stands).symm (noRecord kind fields)
    | cons position address =>
      unfold tips
      rw [mem_tipsFrom]
      constructor
      · rintro ⟨offset, below, same, stands⟩
        obtain ⟨rfl, rfl⟩ : position = offset ∧ address = below := by simpa using same
        exact stands
      · intro stands
        exact ⟨position, address, by simp, stands⟩
  | sequence element rows =>
    cases address with
    | nil => simp only [tips, at?]; grind
    | cons position address => simp [tips, at?]

/-- The tips of several destinations are what stands in them and is no record, at addresses that
begin with the position counted on. -/
theorem mem_tipsFrom {start : Nat} {destinations : List Destination} {address : List Nat}
    {tip : Destination} :
    (address, tip) ∈ tipsFrom start destinations ↔
      ∃ offset below, address = (start + offset) :: below ∧
        atOfAll? destinations (offset :: below) = some tip ∧
        ∀ kind fields, tip ≠ .record kind fields := by
  cases destinations with
  | nil => simp [tipsFrom, atOfAll?]
  | cons destination rest =>
    unfold tipsFrom
    rw [List.mem_append, mem_tipsFrom]
    constructor
    · rintro (inFirst | ⟨offset, below, same, stands⟩)
      · obtain ⟨⟨below, found⟩, member, same⟩ := List.mem_map.mp inFirst
        obtain ⟨rfl, rfl⟩ := Prod.mk.inj same
        exact ⟨0, below, rfl, mem_tips.mp member⟩
      · -- A position among the others is one higher here, and is counted from one lower.
        exact ⟨offset + 1, below, by rw [same]; congr 1; omega, stands⟩
    · rintro ⟨offset, below, rfl, stands⟩
      cases offset with
      | zero => exact .inl (List.mem_map.mpr ⟨(below, tip), mem_tips.mpr stands, rfl⟩)
      | succ offset => exact .inr ⟨offset, below, by congr 1; omega, stands⟩

end

mutual

/-- The tips of a destination are listed in the order of their addresses. -/
theorem pairwise_tips (destination : Destination) :
    (destination.tips.map Prod.fst).Pairwise (· < ·) := by
  cases destination with
  | scalar cell => simp [tips]
  | record kind fields => exact pairwise_tipsFrom 0 fields
  | sequence element rows => simp [tips]

/-- The tips of several destinations are listed in the order of their addresses. -/
theorem pairwise_tipsFrom (start : Nat) (destinations : List Destination) :
    ((tipsFrom start destinations).map Prod.fst).Pairwise (· < ·) := by
  cases destinations with
  | nil => simp [tipsFrom]
  | cons destination rest =>
    unfold tipsFrom
    rw [List.map_append, List.pairwise_append]
    refine ⟨?_, pairwise_tipsFrom (start + 1) rest, ?_⟩
    · -- The same position in front leaves the order as it is.
      rw [List.map_map]
      have inside := (pairwise_tips destination).map (start :: ·)
        fun left right less => List.cons_lt_cons_iff.mpr (.inr ⟨rfl, less⟩)
      rwa [List.map_map] at inside
    · -- The others come at higher positions.
      intro left inFirst right inOthers
      obtain ⟨⟨_, tip⟩, member, rfl⟩ := List.mem_map.mp inFirst
      obtain ⟨⟨below, _⟩, _, same⟩ := List.mem_map.mp member
      obtain ⟨⟨address, other⟩, later, rfl⟩ := List.mem_map.mp inOthers
      obtain ⟨offset, _, rfl, _⟩ := mem_tipsFrom.mp later
      obtain ⟨rfl, _⟩ := Prod.mk.inj same
      exact List.cons_lt_cons_iff.mpr (.inl (by omega))

end

mutual

/-- The tips of a destination without sequences are its leaves. -/
theorem map_snd_tips {destination : Destination} (flat : destination.isFlat = true) :
    destination.tips.map Prod.snd = destination.leaves.map .scalar := by
  cases destination with
  | scalar cell => rfl
  | record kind fields => exact map_snd_tipsFrom 0 flat
  | sequence element rows => simp [isFlat] at flat

/-- The tips of several destinations without sequences are their leaves. -/
theorem map_snd_tipsFrom (start : Nat) {destinations : List Destination}
    (flat : areFlat destinations = true) :
    (tipsFrom start destinations).map Prod.snd = (leavesOfAll destinations).map .scalar := by
  cases destinations with
  | nil => rfl
  | cons destination rest =>
    simp only [areFlat, Bool.and_eq_true] at flat
    -- Both lists begin with those of the first destination; the offset stands in addresses alone.
    unfold tipsFrom leavesOfAll
    rw [List.map_append, List.map_append, map_snd_tipsFrom (start + 1) flat.2,
      ← map_snd_tips flat.1, List.map_map]
    rfl

end

/-- The depth of a tip that is a sequence, with that sequence. -/
def sequenceDepth? (tip : List Nat × Destination) : Option (Nat × Destination) :=
  if tip.2.isSequence then some (tip.1.length, tip.2) else none

/-- The sequences in several destinations, depth first, each with the length of its address. -/
def sequenceDepths (destinations : List Destination) : List (Nat × Destination) :=
  (tipsFrom 0 destinations).filterMap sequenceDepth?

/-- A sequence as it is seen from outside of a record around it. -/
def oneDeeper (found : Nat × Destination) : Nat × Destination :=
  (found.1 + 1, found.2)

/-- One more position in front of an address makes a sequence one deeper. -/
theorem sequenceDepth?_cons (position : Nat) (tip : List Nat × Destination) :
    sequenceDepth? (position :: tip.1, tip.2) = (sequenceDepth? tip).map oneDeeper := by
  unfold sequenceDepth?
  cases tip.2.isSequence <;> rfl

/-- It does not matter from where positions are counted. -/
theorem filterMap_tipsFrom (start : Nat) (destinations : List Destination) :
    (tipsFrom start destinations).filterMap sequenceDepth? = sequenceDepths destinations := by
  unfold sequenceDepths
  -- Only the lengths of addresses count, and at every start they are the same.
  have shifted : ∀ left right, (tipsFrom left destinations).filterMap sequenceDepth? =
      (tipsFrom right destinations).filterMap sequenceDepth? := by
    induction destinations with
    | nil => intro left right; rfl
    | cons destination rest ih =>
      intro left right
      simp only [tipsFrom, List.filterMap_append, List.filterMap_map, Function.comp_def,
        sequenceDepth?_cons, ih (left + 1) (right + 1)]
  exact shifted start 0

/-- The sequences of the first destination, one deeper than inside of it, come before those of the
others. -/
theorem sequenceDepths_cons (destination : Destination) (rest : List Destination) :
    sequenceDepths (destination :: rest) =
      (destination.tips.filterMap sequenceDepth?).map oneDeeper ++ sequenceDepths rest := by
  conv_lhs => unfold sequenceDepths tipsFrom
  simp only [List.filterMap_append, filterMap_tipsFrom, List.filterMap_map, Function.comp_def,
    sequenceDepth?_cons, List.map_filterMap]

/-- The sequences of one list of destinations come before those of the next. -/
theorem sequenceDepths_append (left right : List Destination) :
    sequenceDepths (left ++ right) = sequenceDepths left ++ sequenceDepths right := by
  induction left with
  | nil => rfl
  | cons destination rest ih =>
    rw [List.cons_append, sequenceDepths_cons, sequenceDepths_cons, ih, List.append_assoc]

/-- Every sequence is at least as deep as those at the top. -/
theorem depth_pos {destinations : List Destination} :
    ∀ found ∈ sequenceDepths destinations, 1 ≤ found.1 := by
  intro found member
  obtain ⟨⟨address, tip⟩, listed, depth⟩ := List.mem_filterMap.mp member
  -- No address among several destinations is empty.
  obtain ⟨offset, below, rfl, _⟩ := mem_tipsFrom.mp listed
  simp only [sequenceDepth?] at depth
  split at depth
  · rw [← Option.some.inj depth]
    simp
  · contradiction

/-- After a pass every sequence is one less deep, in the same order. -/
theorem sequenceDepths_of_expandOnce {destinations expanded : List Destination}
    (pass : expandOnce destinations = .ok expanded) :
    sequenceDepths destinations = (sequenceDepths expanded).map oneDeeper := by
  induction destinations generalizing expanded with
  | nil =>
    obtain rfl := Except.ok.inj pass
    rfl
  | cons destination rest ih =>
    obtain ⟨tail, later, ⟨cell, rfl, rfl⟩ | ⟨kind, fields, rfl, rfl⟩⟩ :=
      eq_append_of_expandOnce pass
    · -- A cell stays, and it has no sequence in it.
      rw [sequenceDepths_cons, sequenceDepths_cons, ih later]
      rfl
    · -- The fields come out of their record, and the rest has its own pass.
      rw [sequenceDepths_cons, sequenceDepths_append, List.map_append, ih later]
      rfl

/-- A pass is refused because of the first sequence at the top. -/
theorem sequenceDepths_of_refused {destinations : List Destination} {error : Error}
    (refused : expandOnce destinations = .error error) :
    ∃ before found behind, sequenceDepths destinations = before ++ (1, found) :: behind ∧
      (∀ other ∈ before, 1 < other.1) ∧ error = .unexpectedSequence found.kind := by
  induction destinations with
  | nil => simp [expandOnce] at refused
  | cons destination rest ih =>
    rw [sequenceDepths_cons]
    rcases expandOnce_eq_error_cases refused with ⟨isSequence, same⟩ | ⟨noSequence, later⟩
    · refine ⟨[], destination, sequenceDepths rest, ?_, by simp, same⟩
      cases destination with
      | sequence element rows => rfl
      | _ => simp [Destination.isSequence] at isSequence
    · obtain ⟨before, found, behind, split, deeper, same⟩ := ih later
      refine ⟨(destination.tips.filterMap sequenceDepth?).map oneDeeper ++ before, found, behind,
        by rw [split, List.append_assoc], ?_, same⟩
      -- Inside a record every sequence is below the top.
      intro other member
      rcases List.mem_append.mp member with inside | outside
      · obtain ⟨own, listed, rfl⟩ := List.mem_map.mp inside
        cases destination with
        | scalar cell => simp [tips, sequenceDepth?, isSequence] at listed
        | record kind fields => exact Nat.lt_succ_of_le (depth_pos own listed)
        | sequence element rows => simp [isSequence] at noSequence
      · exact deeper other outside

/-- Flattening fails because of a sequence to which those before it are strictly deeper and those
behind it at least as deep. -/
theorem sequenceDepths_of_flatten {destinations : List Destination} {error : Error}
    (failed : flatten destinations = .error error) :
    ∃ before depth found behind,
      sequenceDepths destinations = before ++ (depth, found) :: behind ∧
      (∀ other ∈ before, depth < other.1) ∧ (∀ other ∈ behind, depth ≤ other.1) ∧
      error = .unexpectedSequence found.kind := by
  -- The induction follows the passes; each of them brings all sequences up by one.
  induction destinations using flatten.induct with
  | case1 destinations cells scalar => simp [flatten_of_scalarCells? scalar] at failed
  | case2 destinations none refusal pass =>
    simp only [flatten_of_not_scalar none, pass, Except.bind, Except.error.injEq] at failed
    subst failed
    obtain ⟨before, found, behind, split, deeper, same⟩ := sequenceDepths_of_refused pass
    refine ⟨before, 1, found, behind, split, deeper, fun other member => ?_, same⟩
    exact depth_pos other (by rw [split]; simp [member])
  | case3 destinations none expanded pass ih =>
    simp only [flatten_of_not_scalar none, pass, Except.bind] at failed
    obtain ⟨before, depth, found, behind, split, deeper, asDeep, same⟩ := ih failed
    refine ⟨before.map oneDeeper, depth + 1, found, behind.map oneDeeper, ?_, ?_, ?_, same⟩
    · rw [sequenceDepths_of_expandOnce pass, split, List.map_append]
      rfl
    · intro other member
      obtain ⟨own, listed, rfl⟩ := List.mem_map.mp member
      exact Nat.succ_lt_succ (deeper own listed)
    · intro other member
      obtain ⟨own, listed, rfl⟩ := List.mem_map.mp member
      exact Nat.succ_le_succ (asDeep own listed)

/-- A sequence at an address, such that every other one stands deeper, or as deep and later. -/
structure IsFirstSequence (destinations : List Destination) (address : List Nat)
    (found : Destination) : Prop where
  stands : atOfAll? destinations address = some found
  isSequence : found.isSequence = true
  first : ∀ other sequence, atOfAll? destinations other = some sequence →
    sequence.isSequence = true → other ≠ address →
    address.length < other.length ∨ address.length = other.length ∧ address < other

/-- What stands at an address and is a sequence or a cell is listed. -/
theorem mem_tipsFrom_zero {destinations : List Destination} {address : List Nat}
    {tip : Destination} (noRecord : ∀ kind fields, tip ≠ .record kind fields) :
    (address, tip) ∈ tipsFrom 0 destinations ↔ atOfAll? destinations address = some tip := by
  rw [mem_tipsFrom]
  -- Counted from zero, the offset in an address is the place in the list.
  constructor
  · rintro ⟨offset, below, rfl, stands, _⟩
    rwa [Nat.zero_add]
  · intro stands
    cases address with
    | nil => simp [atOfAll?] at stands
    | cons offset below => exact ⟨offset, below, by rw [Nat.zero_add], stands, noRecord⟩

/-- A sequence is no record. -/
theorem ne_record_of_isSequence {destination : Destination}
    (sequence : destination.isSequence = true) :
    ∀ kind fields, destination ≠ .record kind fields := by
  rintro kind fields rfl
  simp [isSequence] at sequence

/-- In the list of all tips, a sequence to which the sequences before it are strictly deeper and
those behind it at least as deep is the first one. -/
theorem isFirstSequence_of_split {destinations : List Destination} {address : List Nat}
    {found : Destination} {before behind : List (List Nat × Destination)}
    (split : tipsFrom 0 destinations = before ++ (address, found) :: behind)
    (isSequence : found.isSequence = true)
    (deeper : ∀ tip ∈ before, tip.2.isSequence = true → address.length < tip.1.length)
    (asDeep : ∀ tip ∈ behind, tip.2.isSequence = true → address.length ≤ tip.1.length) :
    IsFirstSequence destinations address found := by
  have ordered := pairwise_tipsFrom 0 destinations
  rw [split] at ordered
  simp only [List.map_append, List.map_cons, List.pairwise_append, List.pairwise_cons] at ordered
  refine ⟨?_, isSequence, fun other sequence stands sequential different => ?_⟩
  · rw [← mem_tipsFrom_zero (ne_record_of_isSequence isSequence), split]
    simp
  · have member := (mem_tipsFrom_zero (ne_record_of_isSequence sequential)).mpr stands
    rw [split] at member
    -- The other sequence is listed before the found one, or behind it.
    rcases List.mem_append.mp member with early | late
    · exact .inl (deeper _ early sequential)
    · rcases List.mem_cons.mp late with itself | late
      · exact absurd (congrArg Prod.fst itself) different
      · have precedes : address < other :=
          ordered.2.1.1 other (List.mem_map.mpr ⟨_, late, rfl⟩)
        rcases Nat.lt_or_eq_of_le (asDeep _ late sequential) with below | level
        · exact .inl below
        · exact .inr ⟨level, precedes⟩

/-- A sequence among the tips is as deep as its address is long. -/
theorem sequenceDepth?_of_isSequence {tip : List Nat × Destination}
    (sequential : tip.2.isSequence = true) : sequenceDepth? tip = some (tip.1.length, tip.2) :=
  if_pos sequential

/-- Flattening that fails reports the first sequence. -/
theorem exists_isFirstSequence {destinations : List Destination} {error : Error}
    (failed : flatten destinations = .error error) :
    ∃ address found, IsFirstSequence destinations address found ∧
      error = .unexpectedSequence found.kind := by
  obtain ⟨before, depth, found, behind, split, deeper, asDeep, same⟩ :=
    sequenceDepths_of_flatten failed
  -- The list of all tips falls apart where the list of sequences does.
  obtain ⟨left, right, tips, rfl, rights⟩ := List.filterMap_eq_append_iff.mp split
  obtain ⟨others, ⟨address, tip⟩, later, rfl, silent, depthOf, rfl⟩ :=
    List.filterMap_eq_cons_iff.mp rights
  have isSequence : tip.isSequence = true := by
    by_contra none
    simp [sequenceDepth?, none] at depthOf
  rw [sequenceDepth?_of_isSequence isSequence] at depthOf
  obtain ⟨rfl, rfl⟩ := Prod.mk.inj (Option.some.inj depthOf)
  rw [← List.append_assoc] at tips
  refine ⟨address, tip, isFirstSequence_of_split tips isSequence ?_ ?_, same⟩
  · intro other listed sequential
    have own := sequenceDepth?_of_isSequence sequential
    rcases List.mem_append.mp listed with early | between
    · exact deeper _ (List.mem_filterMap.mpr ⟨other, early, own⟩)
    · rw [silent other between] at own
      contradiction
  · intro other listed sequential
    exact asDeep _ (List.mem_filterMap.mpr ⟨other, listed, sequenceDepth?_of_isSequence sequential⟩)

/-- Every tip stands at its address. -/
theorem map_atOfAll?_tipsFrom (destinations : List Destination) :
    ((tipsFrom 0 destinations).map Prod.fst).map (atOfAll? destinations) =
      ((tipsFrom 0 destinations).map Prod.snd).map some := by
  rw [List.map_map, List.map_map]
  -- Both lists are the same tips, so it is enough to look at each of them.
  refine List.map_congr_left fun tip member => ?_
  obtain ⟨_, _, _, _, noRecord⟩ := mem_tipsFrom.mp member
  exact (mem_tipsFrom_zero noRecord).mp member

/-- Without sequences every tip is a cell. -/
theorem exists_cell_of_mem_tipsFrom {destinations : List Destination}
    (flat : areFlat destinations = true) {address : List Nat} {tip : Destination}
    (member : (address, tip) ∈ tipsFrom 0 destinations) : ∃ cell, tip = .scalar cell := by
  -- A tip without sequences is one of the leaves, and these are cells.
  have leaf : tip ∈ (leavesOfAll destinations).map .scalar :=
    map_snd_tipsFrom 0 flat ▸ List.mem_map.mpr ⟨_, member, rfl⟩
  obtain ⟨cell, _, same⟩ := List.mem_map.mp leaf
  exact ⟨cell, same.symm⟩

/-- Flattening takes the cells depth first, or reports the first sequence. Without a sequence at any
address, it returns the leaves: the cells at all addresses where there is one, each once, in the
order of the addresses; and the width is their number. With a sequence at some address, it fails
with the kind of the one at the shortest address, of equally short ones the first; no row is laid
over the destinations then, so no cell changes. -/
theorem flatten_takes_cells_or_reports_sequence (destinations : List Destination) :
    ((∀ address found, atOfAll? destinations address = some found → found.isSequence = false) →
      flatten destinations = .ok (leavesOfAll destinations) ∧
      width destinations = .ok (leavesOfAll destinations).length ∧
      ∃ addresses : List (List Nat), addresses.Pairwise (· < ·) ∧
        (∀ address, address ∈ addresses ↔
          ∃ cell, atOfAll? destinations address = some (.scalar cell)) ∧
        addresses.map (atOfAll? destinations) =
          (leavesOfAll destinations).map fun cell => some (.scalar cell)) ∧
    ((∃ address found, atOfAll? destinations address = some found ∧ found.isSequence = true) →
      ∃ address found, IsFirstSequence destinations address found ∧
        flatten destinations = .error (.unexpectedSequence found.kind) ∧
        width destinations = .error (.unexpectedSequence found.kind) ∧
        ∀ row, receive destinations row =
          (.error (.unexpectedSequence found.kind), destinations)) := by
  -- What flattening did decides which of the two premises can hold.
  cases flattened : flatten destinations with
  | error error =>
    obtain ⟨address, found, isFirst, rfl⟩ := exists_isFirstSequence flattened
    constructor
    · intro none
      have refuted := none address found isFirst.stands
      rw [isFirst.isSequence] at refuted
      contradiction
    · intro _
      exact ⟨address, found, isFirst, rfl, by simp [width, flattened, Except.map],
        fun row => by simp [receive, flattened]⟩
  | ok cells =>
    obtain ⟨flat, rfl⟩ := flatten_eq_ok_iff.mp flattened
    constructor
    · intro _
      refine ⟨rfl, by simp [width, flattened, Except.map], (tipsFrom 0 destinations).map Prod.fst,
        pairwise_tipsFrom 0 destinations, fun address => ?_, ?_⟩
      · constructor
        · -- Without sequences, what is listed as a tip can only be a cell.
          intro listed
          obtain ⟨⟨_, tip⟩, member, rfl⟩ := List.mem_map.mp listed
          obtain ⟨cell, rfl⟩ := exists_cell_of_mem_tipsFrom flat member
          exact ⟨cell, (mem_tipsFrom_zero (by simp)).mp member⟩
        · rintro ⟨cell, stands⟩
          exact List.mem_map.mpr ⟨_, (mem_tipsFrom_zero (by simp)).mpr stands, rfl⟩
      · rw [map_atOfAll?_tipsFrom, map_snd_tipsFrom 0 flat, List.map_map]
        rfl
    · rintro ⟨address, found, stands, sequential⟩
      obtain ⟨cell, rfl⟩ := exists_cell_of_mem_tipsFrom flat
        ((mem_tipsFrom_zero (ne_record_of_isSequence sequential)).mpr stands)
      simp [isSequence] at sequential

end RowQuery.Destination
