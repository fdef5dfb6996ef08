import Mathlib.Data.List.Induction
import RowQuery.Connection.Session
import RowQuery.Proofs.Wire.Serving

/-!
Cursors over rows as they arrive, called in any order. The calls made so far tell which row a cursor
is at and which error it has still to report, and with that every answer.
-/

namespace RowQuery.Wire

/-- Calls leave a cursor over a stream at the row that the last of their moves found: none of them
released it. -/
def RowStream.IsAt (stream : RowStream) (calls : List CursorCall) (cells : List WireValue) : Prop :=
  .close ∉ calls ∧
    ∃ earlier, calls.count .next = earlier + 1 ∧ stream.rows[earlier]? = some cells

/-- Calls leave the error of a stream to be reported: one of their moves came upon it behind the
last row, and no call behind that has asked for it. -/
def RowStream.Withholds (stream : RowStream) (calls : List CursorCall) (error : ServerError) :
    Prop :=
  stream.ending = some error ∧
    ∃ before after, calls = before ++ .next :: after ∧ .close ∉ before ∧
      before.count .next = stream.rows.length ∧ .takeError ∉ after

/-- Calls close a cursor over a stream: one of them did, or came to the end of the stream. -/
def RowStream.IsOver (stream : RowStream) (calls : List CursorCall) : Prop :=
  .close ∈ calls ∨ stream.rows.length < calls.count .next

instance (stream : RowStream) (calls : List CursorCall) : Decidable (stream.IsOver calls) :=
  inferInstanceAs (Decidable (_ ∨ _))

section Calls

variable {stream : RowStream} {calls : List CursorCall}

/-- One more move leads to the row behind those that the earlier ones found. -/
theorem RowStream.isAt_move {cells : List WireValue} :
    stream.IsAt (calls ++ [.next]) cells ↔
      .close ∉ calls ∧ stream.rows[calls.count .next]? = some cells := by
  simp [IsAt]

/-- A cursor stays where it is unless it is moved or released. -/
theorem RowStream.isAt_stay (call : CursorCall) (still : call ≠ .next) (kept : call ≠ .close)
    {cells : List WireValue} : stream.IsAt (calls ++ [call]) cells ↔ stream.IsAt calls cells := by
  simp [IsAt, kept.symm, still]

/-- A cursor stays as far as it is in its stream unless it is moved or released. -/
theorem RowStream.isOver_stay (call : CursorCall) (still : call ≠ .next) (kept : call ≠ .close) :
    stream.IsOver (calls ++ [call]) ↔ stream.IsOver calls := by
  simp [IsOver, kept.symm, still]

/-- A closed cursor is not opened again. -/
theorem RowStream.IsOver.append (isOver : stream.IsOver calls) (later : List CursorCall) :
    stream.IsOver (calls ++ later) := by
  rcases isOver with closed | past
  · exact .inl (List.mem_append_left later closed)
  · exact .inr (by rw [List.count_append]; omega)

/-- A closed cursor is at no row. -/
theorem RowStream.IsOver.not_isAt (isOver : stream.IsOver calls) (cells : List WireValue) :
    ¬stream.IsAt calls cells := by
  rintro ⟨opened, earlier, counted, found⟩
  rcases isOver with closed | past
  · exact opened closed
  · -- The row of the last move is in the stream, and the moves went past it.
    have within := (List.getElem?_eq_some_iff.mp found).1
    omega

/-- Before a move, a cursor is closed, or at the end of its stream, or has one more row in front of
it. -/
theorem RowStream.cases_move (stream : RowStream) (calls : List CursorCall) :
    stream.IsOver calls ∨ (.close ∉ calls ∧ calls.count .next = stream.rows.length) ∨
      (.close ∉ calls ∧ ∃ cells, stream.rows[calls.count .next]? = some cells) := by
  -- An open cursor has made fewer moves than there are rows, or as many, or more.
  by_cases closed : .close ∈ calls
  · exact .inl (.inl closed)
  · rcases Nat.lt_trichotomy (calls.count .next) stream.rows.length with before | last | past
    · exact .inr (.inr ⟨closed, _, List.getElem?_eq_getElem before⟩)
    · exact .inr (.inl ⟨closed, last⟩)
    · exact .inl (.inr past)

/-- One more call comes upon the error of a stream, or leaves it if it does not ask for it. -/
theorem RowStream.withholds_append {call : CursorCall} {error : ServerError} :
    stream.Withholds (calls ++ [call]) error ↔
      (stream.ending = some error ∧ call = .next ∧ .close ∉ calls ∧
        calls.count .next = stream.rows.length) ∨
      (stream.Withholds calls error ∧ call ≠ .takeError) := by
  constructor
  · rintro ⟨ends, before, after, shape, opened, counted, unasked⟩
    -- The move that came upon the error is the last call or an earlier one.
    rcases List.eq_nil_or_concat after with rfl | ⟨others, last, rfl⟩
    · obtain ⟨rfl, same⟩ := List.append_inj' shape rfl
      exact .inl ⟨ends, List.singleton_inj.mp same, opened, counted⟩
    · rw [List.concat_eq_append, ← List.cons_append, ← List.append_assoc] at shape
      obtain ⟨rfl, same⟩ := List.append_inj' shape rfl
      simp only [List.concat_eq_append, List.mem_append, List.mem_singleton, not_or] at unasked
      refine .inr ⟨⟨ends, before, others, rfl, opened, counted, unasked.1⟩, ?_⟩
      rw [List.singleton_inj.mp same]
      exact Ne.symm unasked.2
  · rintro (⟨ends, rfl, opened, counted⟩ | ⟨⟨ends, before, after, rfl, opened, counted, unasked⟩,
      kept⟩)
    -- No call is behind the last one, and the new one does not ask behind an earlier one.
    · exact ⟨ends, calls, [], rfl, opened, counted, List.not_mem_nil⟩
    · refine ⟨ends, before, after ++ [call], by simp, opened, counted, ?_⟩
      simp [unasked, kept.symm]

/-- The move behind the last row comes upon the error of a stream. -/
theorem RowStream.withholds_of_last (opened : .close ∉ calls)
    (last : calls.count .next = stream.rows.length) {error : ServerError} :
    stream.Withholds (calls ++ [.next]) error ↔ stream.ending = some error := by
  rw [withholds_append]
  -- Behind this move the error waits to be asked for, having been come upon just now.
  constructor
  · rintro (⟨ends, _⟩ | ⟨⟨ends, _⟩, _⟩)
    · exact ends
    · exact ends
  · intro ends
    exact .inl ⟨ends, rfl, opened, last⟩

/-- All other calls leave an error that is not asked for. -/
theorem RowStream.withholds_of_passing (call : CursorCall) (unasked : call ≠ .takeError)
    (passing : call = .next → .close ∈ calls ∨ calls.count .next ≠ stream.rows.length)
    {error : ServerError} :
    stream.Withholds (calls ++ [call]) error ↔ stream.Withholds calls error := by
  rw [withholds_append]
  constructor
  · rintro (⟨_, moved, opened, last⟩ | ⟨withheld, _⟩)
    · -- The call is not the move that comes upon the error.
      rcases passing moved with closed | other
      · exact absurd closed opened
      · exact absurd last other
    · exact withheld
  · intro withheld
    exact .inr ⟨withheld, unasked⟩

end Calls

/-- A cursor over a stream is as calls leave it. -/
structure Rows.Follows (columns : List ResultColumn) (stream : RowStream)
    (calls : List CursorCall) (rows : Rows) : Prop where
  columns_eq : rows.columns = columns
  pending_eq : rows.pending =
    if stream.IsOver calls then none
    else some ⟨stream.rows.drop (calls.count .next), stream.ending⟩
  current_iff : ∀ cells, rows.current = some cells ↔ stream.IsAt calls cells
  error_iff : ∀ error, rows.error = some error ↔
    ∃ reported, stream.Withholds calls reported ∧ reported.toError = error

namespace Rows.Follows

variable {columns : List ResultColumn} {stream : RowStream} {calls : List CursorCall} {rows : Rows}

/-- A fresh cursor has the whole stream in front of it. -/
theorem fresh (columns : List ResultColumn) (stream : RowStream) :
    Follows columns stream [] { columns, pending := some stream } where
  columns_eq := rfl
  pending_eq := by simp [RowStream.IsOver]
  current_iff := by simp [RowStream.IsAt]
  error_iff := by simp [RowStream.Withholds]

/-- A cursor that is not at its end moves on to the next row. -/
theorem next_of_found (follows : Follows columns stream calls rows) {cells : List WireValue}
    (opened : .close ∉ calls) (found : stream.rows[calls.count .next]? = some cells) :
    rows.next = (true, { rows with
      pending := some ⟨stream.rows.drop (calls.count .next + 1), stream.ending⟩
      current := some cells }) := by
  obtain ⟨within, rfl⟩ := List.getElem?_eq_some_iff.mp found
  -- What is pending begins with the row that is found.
  have pending := follows.pending_eq
  rw [if_neg (by simp only [RowStream.IsOver, opened, false_or]; omega),
    List.drop_eq_getElem_cons within] at pending
  simp only [next, pending]

/-- A cursor that has found every row closes, and keeps the error of the stream. -/
theorem next_of_last (follows : Follows columns stream calls rows) (opened : .close ∉ calls)
    (last : calls.count .next = stream.rows.length) :
    rows.next = (false,
      { rows with error := (stream.ending.map ServerError.toError).or rows.error }.close) := by
  -- No row is pending, only the end of the stream.
  have pending := follows.pending_eq
  rw [if_neg (by simp only [RowStream.IsOver, opened, false_or]; omega), last,
    List.drop_length] at pending
  cases ending : stream.ending <;> simp [next, pending, ending, close]

/-- A cursor that is closed stays as it is. -/
theorem next_of_over (follows : Follows columns stream calls rows)
    (isOver : stream.IsOver calls) :
    rows.next = (false, rows) := by
  have pending := follows.pending_eq
  rw [if_pos isOver] at pending
  simp only [next, pending]

/-- A cursor follows its stream over one more move. -/
theorem move (follows : Follows columns stream calls rows) :
    Follows columns stream (calls ++ [.next]) rows.next.2 := by
  rcases stream.cases_move calls with isOver | ⟨opened, last⟩ | ⟨opened, cells, found⟩
  · -- Nothing changes: a closed cursor is at no row, and comes upon no error.
    have passing : .close ∈ calls ∨ calls.count .next ≠ stream.rows.length :=
      isOver.imp_right Nat.ne_of_gt
    rw [follows.next_of_over isOver]
    refine ⟨follows.columns_eq, ?_, ?_, ?_⟩
    · rw [follows.pending_eq, if_pos isOver, if_pos (isOver.append _)]
    · intro cells
      rw [follows.current_iff, iff_false_intro (isOver.not_isAt cells),
        iff_false_intro ((isOver.append _).not_isAt cells)]
    · simpa only [RowStream.withholds_of_passing .next (by decide) (fun _ => passing)]
        using follows.error_iff
  · -- The cursor closes, and takes up the error that the stream ends with, if any.
    have isOver : stream.IsOver (calls ++ [.next]) := .inr (by simp [last])
    rw [follows.next_of_last opened last]
    refine ⟨follows.columns_eq, (if_pos isOver).symm, ?_, ?_⟩
    · intro cells
      simp [close, isOver.not_isAt]
    · intro error
      simp only [close, RowStream.withholds_of_last opened last]
      cases ends : stream.ending with
      | some reported => simp
      | none =>
        -- Without an error of the stream there was none before, either.
        simp [follows.error_iff, RowStream.Withholds, ends]
  · -- The cursor is at the row it found, and the error is still behind the rows to come.
    have within : calls.count .next < stream.rows.length := (List.getElem?_eq_some_iff.mp found).1
    rw [follows.next_of_found opened found]
    refine ⟨follows.columns_eq, ?_, ?_, ?_⟩
    · rw [if_neg (by simp [RowStream.IsOver, opened]; omega)]
      simp
    · intro other
      simp [RowStream.isAt_move, opened, found]
    · have passing : .close ∈ calls ∨ calls.count .next ≠ stream.rows.length :=
        .inr (Nat.ne_of_lt within)
      simpa only [RowStream.withholds_of_passing .next (by decide) (fun _ => passing)]
        using follows.error_iff

/-- A cursor follows its stream over a scan, which leaves it as it is. -/
theorem scan (follows : Follows columns stream calls rows) :
    Follows columns stream (calls ++ [.scan]) rows where
  -- A scan is no move and no release, so all that a cursor is known by stays.
  columns_eq := follows.columns_eq
  pending_eq := by
    simp only [follows.pending_eq, RowStream.isOver_stay .scan (by decide) (by decide)]
    simp
  current_iff cells := by
    rw [follows.current_iff, RowStream.isAt_stay .scan (by decide) (by decide)]
  error_iff := by
    simpa only [RowStream.withholds_of_passing .scan (by decide) (by simp)] using follows.error_iff

/-- A cursor that is released follows its stream with its error kept. -/
theorem release (follows : Follows columns stream calls rows) :
    Follows columns stream (calls ++ [.close]) rows.close where
  columns_eq := follows.columns_eq
  pending_eq := by simp [close, RowStream.IsOver]
  current_iff cells := by simp [close, RowStream.IsAt]
  error_iff := by
    simpa only [RowStream.withholds_of_passing .close (by decide) (by simp), close]
      using follows.error_iff

/-- A cursor that was asked for its error follows its stream without one. -/
theorem tell (follows : Follows columns stream calls rows) :
    Follows columns stream (calls ++ [.takeError]) { rows with error := none } where
  columns_eq := follows.columns_eq
  pending_eq := by
    simp only [follows.pending_eq, RowStream.isOver_stay .takeError (by decide) (by decide)]
    simp
  current_iff cells := by
    rw [RowStream.isAt_stay .takeError (by decide) (by decide)]
    exact follows.current_iff cells
  -- The question is the last call, so nothing is withheld any more.
  error_iff error := by simp [RowStream.withholds_append]

end Rows.Follows

/-- What is answered to a call on a cursor over a stream after other calls, with the destinations
before and after it. -/
inductive RowStream.Answers (stream : RowStream) (columns : List ResultColumn)
    (calls : List CursorCall) (destinations : List Destination) :
    CursorCall → CursorAnswer → List Destination → Prop where
  /-- The cursor is still open, and there is one more row. -/
  | found {cells : List WireValue} (opened : .close ∉ calls)
      (more : stream.rows[calls.count .next]? = some cells) :
      stream.Answers columns calls destinations .next (.moved true) destinations
  /-- The cursor was released, or has no row in front of it. -/
  | ended (isOver : .close ∈ calls ∨ stream.rows.length ≤ calls.count .next) :
      stream.Answers columns calls destinations .next (.moved false) destinations
  /-- The destinations take no row at all. -/
  | notFlat {error : Error} (refused : Destination.flatten destinations = .error error) :
      stream.Answers columns calls destinations .scan (.scanned (.error error) destinations)
        destinations
  /-- The row that the cursor is at is laid over the destinations. -/
  | scanned {cells : List WireValue} {result : Except Error Unit} {filled : List Destination}
      (flat : Destination.areFlat destinations = true) (here : stream.IsAt calls cells)
      (laid : Destination.receive destinations (readRow columns cells) = (result, filled)) :
      stream.Answers columns calls destinations .scan (.scanned result filled) filled
  /-- The cursor is at no row, and the destinations stay as they are. -/
  | absent (flat : Destination.areFlat destinations = true)
      (nowhere : ∀ cells, ¬stream.IsAt calls cells) :
      stream.Answers columns calls destinations .scan
        (.scanned (.error (.driver "scan called without a current row")) destinations) destinations
  /-- The cursor is released. -/
  | closed : stream.Answers columns calls destinations .close .closed destinations
  /-- The error of the stream is handed over. -/
  | told {error : ServerError} (withheld : stream.Withholds calls error) :
      stream.Answers columns calls destinations .takeError (.reported (.error error.toError))
        destinations
  /-- There is no error to hand over. -/
  | silent (clear : ∀ error, ¬stream.Withholds calls error) :
      stream.Answers columns calls destinations .takeError (.reported (.ok ())) destinations

/-- Calls leave a cursor at one row at most. -/
theorem RowStream.IsAt.unique {stream : RowStream} {calls : List CursorCall}
    {cells others : List WireValue} (here : stream.IsAt calls cells)
    (there : stream.IsAt calls others) : cells = others := by
  obtain ⟨_, earlier, counted, found⟩ := here
  obtain ⟨_, earlier', counted', found'⟩ := there
  -- The number of moves tells which row it is.
  obtain rfl : earlier = earlier' := by omega
  exact Option.some.inj (found.symm.trans found')

/-- A call has one answer, and leaves the destinations in one way. -/
theorem RowStream.Answers.unique {stream : RowStream} {columns : List ResultColumn}
    {calls : List CursorCall} {destinations after after' : List Destination} {call : CursorCall}
    {answer answer' : CursorAnswer}
    (answered : stream.Answers columns calls destinations call answer after)
    (again : stream.Answers columns calls destinations call answer' after') :
    answer = answer' ∧ after = after' := by
  -- A row in front of an open cursor leaves no reason to find none, nor the other way round.
  have apart : ∀ {cells : List WireValue}, .close ∉ calls →
      stream.rows[calls.count .next]? = some cells →
      ¬(.close ∈ calls ∨ stream.rows.length ≤ calls.count .next) := by
    rintro cells opened more (closed | past)
    · exact opened closed
    · have within := (List.getElem?_eq_some_iff.mp more).1
      omega
  cases answered with
  | found opened more =>
    cases again with
    | found => exact ⟨rfl, rfl⟩
    | ended passed => exact absurd passed (apart opened more)
  | ended passed =>
    cases again with
    | found opened more => exact absurd passed (apart opened more)
    | ended => exact ⟨rfl, rfl⟩
  | notFlat refused =>
    -- Destinations are flat or they are not; each way has its own answers to a scan.
    cases again with
    | notFlat refused' =>
      obtain rfl := Except.error.inj (refused.symm.trans refused')
      exact ⟨rfl, rfl⟩
    | scanned flat | absent flat => simp [Destination.flatten_of_areFlat flat] at refused
  | scanned flat here laid =>
    cases again with
    | notFlat refused => simp [Destination.flatten_of_areFlat flat] at refused
    | scanned _ there laid' =>
      obtain rfl := here.unique there
      obtain ⟨rfl, rfl⟩ := Prod.mk.inj (laid.symm.trans laid')
      exact ⟨rfl, rfl⟩
    | absent _ nowhere => exact absurd here (nowhere _)
  | absent flat nowhere =>
    cases again with
    | notFlat refused => simp [Destination.flatten_of_areFlat flat] at refused
    | scanned _ here => exact absurd here (nowhere _)
    | absent => exact ⟨rfl, rfl⟩
  | closed =>
    cases again
    exact ⟨rfl, rfl⟩
  | told withheld =>
    cases again with
    | told withheld' =>
      obtain rfl := Option.some.inj (withheld.1.symm.trans withheld'.1)
      exact ⟨rfl, rfl⟩
    | silent clear => exact absurd withheld (clear _)
  | silent clear =>
    cases again with
    | told withheld => exact absurd withheld (clear _)
    | silent => exact ⟨rfl, rfl⟩

section Sessions

variable {columns : List ResultColumn} {stream : RowStream} {calls : List CursorCall}

/-- A call in a session is answered by the stream, and the cursor follows it. -/
theorem answers_step {session : Session Rows}
    (follows : Rows.Follows columns stream calls session.cursor) (call : CursorCall) :
    Rows.Follows columns stream (calls ++ [call]) (session.step call).cursor ∧
      ∃ answer, (session.step call).answers = session.answers ++ [answer] ∧
        stream.Answers columns calls session.destinations call answer
          (session.step call).destinations := by
  cases call with
  | next =>
    refine ⟨follows.move, _, rfl, ?_⟩
    show stream.Answers _ _ _ _ (.moved session.cursor.next.1) _
    rcases stream.cases_move calls with isOver | ⟨opened, last⟩ | ⟨opened, cells, found⟩
    · rw [follows.next_of_over isOver]
      exact .ended (isOver.imp_right Nat.le_of_lt)
    · rw [follows.next_of_last opened last]
      exact .ended (.inr last.ge)
    · rw [follows.next_of_found opened found]
      exact .found opened found
  | scan =>
    refine ⟨?_, ?_⟩
    · -- Destinations that are not flat keep the call from the cursor, and others from changing it.
      have same : (session.step .scan).cursor = session.cursor := by
        simp only [Session.step]
        split <;> rfl
      rw [same]
      exact follows.scan
    · cases flattened : Destination.flatten session.destinations with
      | error error =>
        simp only [Session.step, flattened]
        exact ⟨_, rfl, .notFlat flattened⟩
      | ok cells =>
        have flat := Destination.areFlat_of_flatten flattened
        cases current : session.cursor.current with
        | some cells =>
          have read : Cursor.row session.cursor = readRow columns cells := by
            simp only [Cursor.row, Rows.row, current, follows.columns_eq]
          simp only [Session.step, flattened, read]
          exact ⟨_, rfl, .scanned flat ((follows.current_iff cells).mp current) rfl⟩
        | none =>
          have nowhere : ∀ cells, ¬stream.IsAt calls cells := by
            intro cells found
            rw [← follows.current_iff, current] at found
            contradiction
          have read : Cursor.row session.cursor =
              .error (.driver "scan called without a current row") := by
            simp only [Cursor.row, Rows.row, current]
          simp only [Session.step, flattened, read, Destination.receive_error flat]
          exact ⟨_, rfl, .absent flat nowhere⟩
  | close => exact ⟨follows.release, _, rfl, .closed⟩
  | takeError =>
    -- The cursor has stored an error exactly if the calls leave one to be reported.
    cases stored : session.cursor.error with
    | none =>
      have taken : Cursor.takeError session.cursor =
          (.ok (), { session.cursor with error := none }) := by
        simp only [Cursor.takeError, Rows.takeError, stored]
        rw [← stored]
      have clear : ∀ error, ¬stream.Withholds calls error := by
        intro error withheld
        have kept := (follows.error_iff error.toError).mpr ⟨error, withheld, rfl⟩
        rw [stored] at kept
        contradiction
      simp only [Session.step, taken]
      exact ⟨follows.tell, _, rfl, .silent clear⟩
    | some error =>
      have taken : Cursor.takeError session.cursor =
          (.error error, { session.cursor with error := none }) := by
        simp only [Cursor.takeError, Rows.takeError, stored]
      obtain ⟨reported, withheld, rfl⟩ := (follows.error_iff error).mp stored
      simp only [Session.step, taken]
      exact ⟨follows.tell, _, rfl, .told withheld⟩

/-- A call in a session is answered by the stream as the calls in front of it left it. -/
theorem answers_replay (columns : List ResultColumn) (stream : RowStream)
    (destinations : List Destination) (calls : List CursorCall) :
    let start : Session Rows := ⟨{ columns, pending := some stream }, destinations, [], []⟩
    let session := start.replay calls
    Rows.Follows columns stream calls session.cursor ∧ session.answers.length = calls.length ∧
      ∀ (place : Nat) (call : CursorCall), calls[place]? = some call →
        ∃ answer, session.answers[place]? = some answer ∧
          stream.Answers columns (calls.take place) (start.replay (calls.take place)).destinations
            call answer (start.replay (calls.take (place + 1))).destinations := by
  intro start
  -- The induction is on the calls, from the last one on.
  induction calls using List.reverseRecOn with
  | nil => exact ⟨.fresh columns stream, rfl, by simp⟩
  | append_singleton calls last ih =>
    obtain ⟨follows, counted, answered⟩ := ih
    have replayed : start.replay (calls ++ [last]) = (start.replay calls).step last := by
      simp only [Session.replay, List.foldl_append, List.foldl_cons, List.foldl_nil]
    obtain ⟨followsOn, answer, grown, given⟩ := answers_step follows last
    rw [replayed]
    refine ⟨followsOn, by simp [grown, counted], ?_⟩
    intro place call here
    rcases Nat.lt_trichotomy place calls.length with earlier | rfl | past
    · -- The answer to an earlier call is not touched by the last one.
      rw [List.getElem?_append_left earlier] at here
      obtain ⟨told, present, spoken⟩ := answered place call here
      refine ⟨told, ?_, ?_⟩
      · rw [grown, List.getElem?_append_left (counted.symm ▸ earlier), present]
      · rwa [List.take_append_of_le_length earlier.le, List.take_append_of_le_length earlier]
    · obtain rfl : last = call := by simpa using here
      refine ⟨answer, by simp [grown, ← counted], ?_⟩
      have whole : (calls ++ [last]).take (calls.length + 1) = calls ++ [last] :=
        List.take_of_length_le (by simp)
      rw [whole, List.take_left, replayed]
      exact given
    · rw [List.getElem?_eq_none (by simp; omega)] at here
      contradiction

/-- Once a move has found no row or the cursor was released, no later move finds one. -/
theorem RowStream.Answers.moved_of_over {destinations after : List Destination}
    {answer : CursorAnswer} (isOver : stream.IsOver calls)
    (answered : stream.Answers columns calls destinations .next answer after) :
    answer = .moved false := by
  -- A row found would be within the stream and the cursor open.
  cases answered with
  | ended => rfl
  | found opened more =>
    have within := (List.getElem?_eq_some_iff.mp more).1
    rcases isOver with closed | past
    · exact absurd closed opened
    · omega

/-- A move that finds no row leaves the cursor closed, as a release does. -/
theorem RowStream.Answers.isOver {destinations after : List Destination} {call : CursorCall}
    {answer : CursorAnswer} (ended : call = .close ∨ answer = .moved false)
    (answered : stream.Answers columns calls destinations call answer after) :
    stream.IsOver (calls ++ [call]) := by
  -- The call itself releases the cursor, or the move before it has found the end.
  rcases ended with rfl | rfl
  · exact .inl (List.mem_append_right calls (List.mem_singleton_self _))
  · cases answered with
    | ended passed =>
      rcases passed with closed | past
      · exact .inl (List.mem_append_left _ closed)
      · exact .inr (by simp; omega)

/-- A cursor keeps to its stream, in whatever order it is called. A move finds the next row of the
stream until the rows are used up or the cursor is released, and none is found ever after; a scan
lays out the row that the last move found, or fails and changes nothing if there is none; the error
that the stream ends with is handed over once, to the first call that asks for it behind the move
that came upon it. Every call has that answer and no other. A cursor that is released twice is as
one that is released once. -/
theorem cursor_keeps_to_stream (columns : List ResultColumn) (stream : RowStream)
    (destinations : List Destination) (calls : List CursorCall) :
    let start : Session Rows := ⟨{ columns, pending := some stream }, destinations, [], []⟩
    let session := start.replay calls
    session.answers.length = calls.length ∧
      (∀ (place : Nat) (call : CursorCall), calls[place]? = some call →
        ∀ (answer : CursorAnswer) (after : List Destination),
          stream.Answers columns (calls.take place) (start.replay (calls.take place)).destinations
              call answer after ↔
            session.answers[place]? = some answer ∧
              (start.replay (calls.take (place + 1))).destinations = after) ∧
      (∀ earlier later : Nat, earlier < later →
        (calls[earlier]? = some .close ∨ session.answers[earlier]? = some (.moved false)) →
        calls[later]? = some .next → session.answers[later]? = some (.moved false)) ∧
      (start.replay (calls ++ [.close, .close])).cursor =
        (start.replay (calls ++ [.close])).cursor ∧
      ∀ (server : Server) (statement : Statement), server.Takes statement stream →
        server.description.columns = columns →
        let (run, filled) := server.connection.session statement calls destinations
        run.result = .ok session.answers ∧ filled = session.destinations := by
  intro start session
  obtain ⟨_, counted, answered⟩ := answers_replay columns stream destinations calls
  refine ⟨counted, ?_, ?_, ?_, ?_⟩
  · intro place call here answer after
    obtain ⟨given, present, spoken⟩ := answered place call here
    constructor
    · -- The call has no other answer than the one it was given.
      intro other
      obtain ⟨rfl, rfl⟩ := spoken.unique other
      exact ⟨present, rfl⟩
    · rintro ⟨present', rfl⟩
      obtain rfl := Option.some.inj (present.symm.trans present')
      exact spoken
  · intro earlier later before ended moved
    have within : earlier < calls.length := by
      have reached := (List.getElem?_eq_some_iff.mp moved).1
      omega
    obtain ⟨first, present, spoken⟩ := answered earlier _ (List.getElem?_eq_getElem within)
    obtain ⟨last, present', spoken'⟩ := answered later _ moved
    -- The cursor is closed after the earlier call, and still at the later one.
    have isOver : stream.IsOver (calls.take earlier ++ [calls[earlier]]) := by
      refine spoken.isOver ?_
      rcases ended with released | told
      · exact .inl (Option.some.inj ((List.getElem?_eq_getElem within).symm.trans released))
      · exact .inr (Option.some.inj (present.symm.trans told))
    rw [List.take_append_getElem] at isOver
    have still : stream.IsOver (calls.take later) := by
      obtain ⟨between, shape⟩ := List.take_prefix_take_left (l := calls) before
      rw [← shape]
      exact isOver.append between
    rw [present', spoken'.moved_of_over still]
  · simp only [Session.replay, List.foldl_append, List.foldl_cons, List.foldl_nil]
    rfl
  · intro server statement takes described
    simp only [Connection.session, Server.connection, Server.allRows, takes.prepared,
      takes.started, Except.map, described]
    exact ⟨rfl, rfl⟩

/-- The error behind the only row outlasts the release of the cursor, and is told once. -/
example :
    let start : Session Rows :=
      ⟨{ columns := [], pending := some ⟨[[]], some ⟨"23505", "taken", none⟩⟩ }, [], [], []⟩
    (start.replay [.next, .next, .close, .takeError, .takeError]).answers =
      [.moved true, .moved false, .closed, .reported (.error (.uniqueViolation "unknown: taken")),
        .reported (.ok ())] := by
  rfl

end Sessions

end RowQuery.Wire
