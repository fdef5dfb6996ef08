import Mathlib.Data.List.Induction
import RowQuery.Proofs.Text.Digits
import RowQuery.Proofs.Wire.Numbering
import RowQuery.Proofs.Wire.Quotations

/-!
The places of a text are its question marks outside quotations. Numbering writes the number of each
place in its stead and keeps every other character. What it writes has no places left, and the
places of one text behind another are numbered on from those in front, if that one ends outside
quotations.
-/

namespace RowQuery.Wire

/-- For every position of a text, whether it lies in a quotation. -/
def marks (stretches : List Stretch) : List Bool :=
  stretches.flatMap fun stretch => List.replicate stretch.chars.length stretch.isQuotation

/-- A position that lies in a quotation. -/
def IsQuoted (text : List Char) (position : Nat) : Prop :=
  ∃ stretches, Reading text stretches ∧ (marks stretches)[position]? = some true

/-- A position with a question mark that lies in no quotation. -/
def IsPlace (text : List Char) (position : Nat) : Prop :=
  text[position]? = some '?' ∧ ¬ IsQuoted text position

/-- A text behind which no quotation is open. -/
def EndsOutside (text : List Char) : Prop :=
  ∃ stretches, Reading text stretches ∧ ∀ stretch ∈ stretches, stretch.isClosed = true

/-- A text with what is shown for the number of each place in its stead, counted from a start on: the
text is replaced character by character, and only places are replaced by something else. -/
structure Numbered (shown : Nat → String) (start : Nat) (text output : List Char)
    (places : List Nat) : Prop where
  increasing : places.Pairwise (· < ·)
  mem_iff : ∀ position, position ∈ places ↔ IsPlace text position
  pieces : ∃ pieces : List (List Char), pieces.length = text.length ∧ pieces.flatten = output ∧
    (∀ count position, places[count]? = some position →
      pieces[position]? = some (shown (start + count)).toList) ∧
    ∀ position char, text[position]? = some char → position ∉ places →
      pieces[position]? = some [char]

/-- A mark is no question mark. -/
theorem IsMark.ne_questionMark {mark : Char} (marked : IsMark mark) : mark ≠ '?' := by
  rcases marked with rfl | rfl <;> decide

/-- The positions of a quotation all lie in it. -/
theorem marks_quotation (mark : Char) (content : List Char) (stretches : List Stretch) :
    marks (.quotation mark content :: stretches) =
      [true] ++ (List.replicate (escaped mark content).length true ++
        ([true] ++ marks stretches)) := by
  -- A quotation is its content between two marks.
  have length : (Stretch.quotation mark content).chars.length =
      1 + ((escaped mark content).length + 1) := by
    simp [Stretch.chars, Nat.add_comm]
  rw [marks, List.flatMap_cons, length, List.replicate_add, List.replicate_add]
  simp [marks, Stretch.isQuotation]

/-- So do those of a quotation without its closing mark. -/
theorem marks_unclosed (mark : Char) (content : List Char) :
    marks [.unclosed mark content] =
      [true] ++ List.replicate (escaped mark content).length true := by
  simp [marks, Stretch.chars, Stretch.isQuotation, List.replicate_succ]

namespace PlaceholderScan

/-- A scan opens a quotation at a mark. -/
theorem opens_eq_true_iff (char : Char) : opens char = true ↔ IsMark char := by
  simp [opens, IsMark]

/-- A scan inside a quotation. -/
def inside (mark : Char) (count : Nat) : PlaceholderScan :=
  ⟨some mark, Int32.ofNat count⟩

/-- A mark leads into a quotation. -/
theorem after_outside_mark {mark : Char} (marked : IsMark mark) (count : Nat) :
    (outside count).after mark = inside mark count := by
  have opening := (opens_eq_true_iff mark).mpr marked
  simp [after, outside, inside, opening]

/-- Any other character stays outside. -/
theorem after_outside_of_not_mark {char : Char} (noMark : ¬ IsMark char) (count : Nat) :
    ∃ later, (outside count).after char = outside later := by
  have noOpening : opens char = false := by
    rw [← Bool.not_eq_true, opens_eq_true_iff]
    exact noMark
  -- A place is counted, and anything else only passed.
  by_cases place : char = '?'
  · subst place
    exact ⟨count + 1, by simp [after, outside, noOpening, Int32.ofNat_add]⟩
  · exact ⟨count, by simp [after, outside, noOpening, place]⟩

/-- The same mark leads out of it. -/
theorem after_inside_mark (mark : Char) (count : Nat) :
    (inside mark count).after mark = outside count := by
  simp [after, outside, inside]

/-- Any other character stays in it. -/
theorem after_inside_of_ne {mark char : Char} (other : char ≠ mark) (count : Nat) :
    (inside mark count).after char = inside mark count := by
  simp [after, inside, other]

/-- A scan tells where places may be: at every question mark of a text, it is in a quotation exactly
if so it is marked. -/
structure Tells (scan : PlaceholderScan) (text : List Char) (quoted : List Bool) : Prop where
  length_eq : quoted.length = text.length
  tells : ∀ position, text[position]? = some '?' →
    quoted[position]? = some ((text.take position).foldl after scan).quote.isSome

namespace Tells

variable {scan between : PlaceholderScan} {left right : List Char} {quoted quoted' : List Bool}

/-- Nothing is told about nothing. -/
theorem nil (scan : PlaceholderScan) : Tells scan [] [] :=
  ⟨rfl, fun _ found => by simp at found⟩

/-- Behind a text, another one is told about from where the scan is then. -/
theorem append (first : Tells scan left quoted) (led : left.foldl after scan = between)
    (second : Tells between right quoted') : Tells scan (left ++ right) (quoted ++ quoted') := by
  refine ⟨by simp [first.length_eq, second.length_eq], fun position found => ?_⟩
  rw [List.getElem?_append] at found ⊢
  rw [first.length_eq]
  -- The question mark stands in one of the two texts.
  by_cases early : position < left.length
  · rw [if_pos early] at found ⊢
    rw [List.take_append_of_le_length (by omega)]
    exact first.tells position found
  · rw [if_neg early] at found ⊢
    rw [List.take_append, List.take_of_length_le (by omega), List.foldl_append, led]
    exact second.tells _ found

/-- About a character other than a question mark there is nothing to tell. -/
theorem single_of_ne {char : Char} (other : char ≠ '?') (scan : PlaceholderScan) (bit : Bool) :
    Tells scan [char] [bit] := by
  refine ⟨rfl, fun position found => ?_⟩
  -- The only position is that of the character itself.
  cases position with
  | zero => exact absurd (Option.some.inj found) other
  | succ position => simp at found

/-- One character is told about before it is read. -/
theorem single (scan : PlaceholderScan) (char : Char) : Tells scan [char] [scan.quote.isSome] := by
  refine ⟨rfl, fun position found => ?_⟩
  cases position with
  | zero => rfl
  | succ position => simp at found

/-- The content of a quotation is told to lie in it, and the scan stays inside. -/
theorem escaped {mark : Char} (marked : IsMark mark) (content : List Char) (count : Nat) :
    Tells (inside mark count) (escaped mark content)
        (List.replicate (escaped mark content).length true) ∧
      (escaped mark content).foldl after (inside mark count) = inside mark count := by
  -- Whatever is written for a character of the content, the scan is inside again behind it.
  induction content with
  | nil => exact ⟨.nil _, rfl⟩
  | cons char rest ih =>
    rw [escaped_cons, List.length_append, List.replicate_add, List.foldl_append]
    by_cases same : char = mark
    · -- The first of two marks leads out, and the second one leads in again.
      have led : [mark, mark].foldl after (inside mark count) = inside mark count := by
        rw [List.foldl_cons, after_inside_mark, List.foldl_cons, after_outside_mark marked]
        rfl
      have one : ∀ scan, Tells scan [mark] [true] :=
        fun scan => .single_of_ne marked.ne_questionMark scan true
      have both : Tells (inside mark count) [mark, mark] [true, true] := (one _).append rfl (one _)
      rw [if_pos same, led]
      exact ⟨both.append led ih.1, ih.2⟩
    · have led : [char].foldl after (inside mark count) = inside mark count :=
        after_inside_of_ne same count
      have one : Tells (inside mark count) [char] [true] := .single _ _
      rw [if_neg same, led]
      exact ⟨one.append led ih.1, ih.2⟩

/-- A scan from outside quotations tells what the reading of the text says. -/
theorem of_reading {text : List Char} {stretches : List Stretch}
    (reading : Reading text stretches) (count : Nat) :
    Tells (outside count) text (marks stretches) := by
  -- The count is left open, since a question mark outside quotations raises it.
  induction reading generalizing count with
  | nil => exact .nil _
  | @plain char rest stretches noMark _ ih =>
    obtain ⟨later, led⟩ := after_outside_of_not_mark noMark count
    have one : Tells (outside count) [char] [false] := .single _ _
    exact one.append led (ih later)
  | @quotation mark content rest stretches marked _ _ ih =>
    have opening : Tells (outside count) [mark] [true] := .single_of_ne marked.ne_questionMark _ _
    have closing : Tells (inside mark count) [mark] [true] :=
      .single_of_ne marked.ne_questionMark _ _
    obtain ⟨body, stays⟩ := Tells.escaped marked content count
    -- The opening mark leads in, the closing one out again, and the count is what it was.
    have behind := closing.append (after_inside_mark mark count) (ih count)
    rw [marks_quotation]
    exact opening.append (after_outside_mark marked count) (body.append stays behind)
  | @unclosed mark content marked =>
    have opening : Tells (outside count) [mark] [true] := .single_of_ne marked.ne_questionMark _ _
    rw [marks_unclosed]
    exact opening.append (after_outside_mark marked count) (Tells.escaped marked content count).1

end Tells

/-- Behind a text whose quotations are all closed, a scan is outside of them again. -/
theorem exists_outside_of_isClosed {text : List Char} {stretches : List Stretch}
    (reading : Reading text stretches)
    (closed : ∀ stretch ∈ stretches, stretch.isClosed = true) (count : Nat) :
    ∃ later, text.foldl after (outside count) = outside later := by
  -- The induction is on the reading; only a stretch that is not closed would keep the scan inside.
  induction reading generalizing count with
  | nil => exact ⟨count, rfl⟩
  | plain noMark _ ih =>
    obtain ⟨later, led⟩ := after_outside_of_not_mark noMark count
    rw [List.foldl_cons, led]
    exact ih (fun stretch member => closed stretch (List.mem_cons_of_mem _ member)) later
  | @quotation mark content rest stretches marked _ _ ih =>
    have stays := (Tells.escaped marked content count).2
    rw [List.foldl_cons, after_outside_mark marked, List.foldl_append, stays, List.foldl_cons,
      after_inside_mark]
    exact ih (fun stretch member => closed stretch (List.mem_cons_of_mem _ member)) count
  | unclosed _ => exact absurd (closed _ List.mem_cons_self) nofun

/-- A scan does to a text from everywhere outside quotations what it does from the start. -/
theorem foldl_after_outside (count : Nat) (text : List Char) :
    text.foldl after (outside count) =
      (text.foldl after (outside 0)).ahead (Int32.ofNat count) := by
  have moved := foldl_after_ahead (outside 0) (Int32.ofNat count) text
  simpa [ahead, outside] using moved

end PlaceholderScan

open PlaceholderScan

/-- A position is a place exactly if there is a question mark and a scan that started outside
quotations is outside of them in front of it. -/
theorem isPlace_iff {text : List Char} {position : Nat} :
    IsPlace text position ↔ text[position]? = some '?' ∧
      ((text.take position).foldl after (outside 0)).quote = none := by
  obtain ⟨stretches, reading⟩ := Reading.exists_reading text
  refine and_congr_right fun found => ?_
  have told := (Tells.of_reading reading 0).tells position found
  constructor
  · intro unquoted
    by_contra quoted
    refine unquoted ⟨stretches, reading, ?_⟩
    rw [told, Option.isSome_iff_ne_none.mpr quoted]
  · rintro unquoted ⟨others, reading', marked⟩
    -- The text is read in this one way.
    rw [reading'.unique reading, told, unquoted] at marked
    simp at marked

/-- Places are positions of the text. -/
theorem IsPlace.lt_length {text : List Char} {position : Nat} (isPlace : IsPlace text position) :
    position < text.length :=
  (List.getElem?_eq_some_iff.mp isPlace.1).1

/-- What stands behind a text adds no places to it. -/
theorem isPlace_append {text : List Char} {position : Nat} (early : position < text.length)
    (rest : List Char) : IsPlace (text ++ rest) position ↔ IsPlace text position := by
  rw [isPlace_iff, isPlace_iff, List.getElem?_append_left early,
    List.take_append_of_le_length (by omega)]

/-- The last character of a text is a place if it is a question mark outside quotations. -/
theorem isPlace_length_iff {text : List Char} {char : Char} :
    IsPlace (text ++ [char]) text.length ↔
      (text.foldl after (outside 0)).quote = none ∧ char = '?' := by
  rw [isPlace_iff, List.getElem?_concat_length, List.take_left, Option.some_inj, and_comm]

/-- With a character behind it, a text has the places it had, and maybe that one. -/
theorem isPlace_concat_iff {text : List Char} {char : Char} {position : Nat} :
    IsPlace (text ++ [char]) position ↔
      IsPlace text position ∨ position = text.length ∧ IsPlace (text ++ [char]) text.length := by
  -- Whether a position is a place is decided by the text up to it.
  constructor
  · intro isPlace
    have bound := isPlace.lt_length
    rw [List.length_append, List.length_singleton] at bound
    by_cases early : position < text.length
    · exact .inl ((isPlace_append early _).mp isPlace)
    · obtain rfl : position = text.length := by omega
      exact .inr ⟨rfl, isPlace⟩
  · rintro (isPlace | ⟨rfl, isPlace⟩)
    · exact (isPlace_append isPlace.lt_length _).mpr isPlace
    · exact isPlace

/-- An element of a list with another one behind it is an element of the list or that one. -/
theorem getElem?_concat_eq_some {α : Type} {list : List α} {last element : α} {position : Nat}
    (found : (list ++ [last])[position]? = some element) :
    list[position]? = some element ∨ position = list.length ∧ element = last := by
  rw [List.getElem?_append, List.getElem?_singleton] at found
  -- The position is within the list, or it is the one behind it.
  split at found
  · exact .inl found
  · split at found
    · exact .inr ⟨by omega, (Option.some.inj found).symm⟩
    · simp at found

namespace Numbered

variable {shown other : Nat → String} {start : Nat} {text output : List Char} {places : List Nat}
  {char : Char}

/-- Places are positions of the text. -/
theorem lt_length (numbered : Numbered shown start text output places) {position : Nat}
    (member : position ∈ places) : position < text.length :=
  ((numbered.mem_iff position).mp member).lt_length

/-- There is nothing to number in nothing. -/
theorem nil (shown : Nat → String) (start : Nat) : Numbered shown start [] [] [] where
  increasing := .nil
  mem_iff position := by simp [isPlace_iff]
  pieces := ⟨[], rfl, rfl, by simp, by simp⟩

/-- A text is continued with a character that is no place. -/
theorem keep (numbered : Numbered shown start text output places)
    (noPlace : ¬ IsPlace (text ++ [char]) text.length) :
    Numbered shown start (text ++ [char]) (output ++ [char]) places where
  increasing := numbered.increasing
  mem_iff position := by
    rw [numbered.mem_iff, isPlace_concat_iff]
    simp [noPlace]
  pieces := by
    obtain ⟨pieces, length, rfl, atPlace, atOther⟩ := numbered.pieces
    -- The character is its own piece, and the pieces in front keep their positions.
    refine ⟨pieces ++ [[char]], by simp [length], by simp, ?_, ?_⟩
    · intro count position found
      have early := numbered.lt_length (List.mem_of_getElem? found)
      rw [List.getElem?_append_left (by omega)]
      exact atPlace count position found
    · intro position other found noMember
      rcases getElem?_concat_eq_some found with found | ⟨rfl, rfl⟩
      · have early := (List.getElem?_eq_some_iff.mp found).1
        rw [List.getElem?_append_left (by omega)]
        exact atOther position other found noMember
      · rw [← length, List.getElem?_concat_length]

/-- A text is continued with a place, which has the next number. -/
theorem place (numbered : Numbered shown start text output places)
    (isPlace : IsPlace (text ++ [char]) text.length) :
    Numbered shown start (text ++ [char]) (output ++ (shown (start + places.length)).toList)
      (places ++ [text.length]) where
  increasing := by
    refine List.pairwise_append.mpr ⟨numbered.increasing, List.pairwise_singleton _ _, ?_⟩
    intro position member last lastMember
    rw [List.mem_singleton.mp lastMember]
    exact numbered.lt_length member
  mem_iff position := by
    rw [List.mem_append, numbered.mem_iff, isPlace_concat_iff, List.mem_singleton]
    simp [isPlace]
  pieces := by
    obtain ⟨pieces, length, rfl, atPlace, atOther⟩ := numbered.pieces
    -- The number is the piece of the place, and the pieces in front keep their positions.
    refine ⟨pieces ++ [(shown (start + places.length)).toList], by simp [length], by simp, ?_, ?_⟩
    · intro count position found
      rcases getElem?_concat_eq_some found with found | ⟨rfl, rfl⟩
      · have early := numbered.lt_length (List.mem_of_getElem? found)
        rw [List.getElem?_append_left (by omega)]
        exact atPlace count position found
      · rw [← length, List.getElem?_concat_length]
    · intro position other found noMember
      rw [List.mem_append, not_or, List.mem_singleton] at noMember
      rcases getElem?_concat_eq_some found with found | ⟨rfl, rfl⟩
      · have early := (List.getElem?_eq_some_iff.mp found).1
        rw [List.getElem?_append_left (by omega)]
        exact atOther position other found noMember.1
      · exact absurd rfl noMember.2

/-- What is shown matters only at the places. -/
theorem congr (numbered : Numbered shown start text output places)
    (same : ∀ count < places.length, shown (start + count) = other (start + count)) :
    Numbered other start text output places where
  increasing := numbered.increasing
  mem_iff := numbered.mem_iff
  pieces := by
    obtain ⟨pieces, length, flat, atPlace, atOther⟩ := numbered.pieces
    refine ⟨pieces, length, flat, fun count position found => ?_, atOther⟩
    rw [← same count (List.getElem?_eq_some_iff.mp found).1]
    exact atPlace count position found

end Numbered

/-- Behind a text, another one is numbered from where the scan is then. -/
theorem numbered_append (scan : PlaceholderScan) (left right : List Char) :
    scan.numbered (left ++ right) =
      scan.numbered left ++ (left.foldl after scan).numbered right := by
  -- Every character of the first text is replaced as if it stood alone.
  induction left generalizing scan with
  | nil => rfl
  | cons char rest ih =>
    rw [List.cons_append, numbered, numbered, ih, List.foldl_cons, List.append_assoc]

/-- Behind a text, a scan has counted on by what it has met. -/
theorem count_foldl_after_outside (start : Nat) (text : List Char) :
    (text.foldl after (outside start)).count =
      (outside (start + (outside start).met text)).count := by
  rw [count_foldl_after]
  exact (Int32.ofNat_add _ _).symm

/-- A text is numbered at its places, from any start on, and these are what a scan meets in it. -/
theorem exists_numbered (text : List Char) : ∃ places, ∀ start,
    Numbered heldNumber start text ((outside start).numbered text) places ∧
      (outside start).met text = places.length := by
  -- The induction is on the last character, since places are counted from the left.
  induction text using List.reverseRecOn with
  | nil => exact ⟨[], fun start => ⟨.nil heldNumber start, rfl⟩⟩
  | append_singleton text char ih =>
    obtain ⟨places, ih⟩ := ih
    have output : ∀ start, (outside start).numbered (text ++ [char]) =
        (outside start).numbered text ++ (text.foldl after (outside start)).written char := by
      intro start
      rw [numbered_append, numbered, numbered, List.append_nil]
    -- Where the next place would be does not depend on the start.
    have quote : ∀ start, (text.foldl after (outside start)).quote =
        (text.foldl after (outside 0)).quote := by
      intro start
      rw [foldl_after_outside]
      rfl
    by_cases isPlace : IsPlace (text ++ [char]) text.length
    · refine ⟨places ++ [text.length], fun start => ?_⟩
      obtain ⟨numbered, met⟩ := ih start
      obtain ⟨unquoted, rfl⟩ := isPlace_length_iff.mp isPlace
      rw [← quote start] at unquoted
      constructor
      · rw [output, written, if_pos ⟨unquoted, rfl⟩, count_foldl_after_outside, met,
          ← toList_heldNumber]
        exact numbered.place isPlace
      · rw [met_append, met, PlaceholderScan.met, if_pos ⟨unquoted, rfl⟩, PlaceholderScan.met,
          List.length_append, List.length_singleton]
    · refine ⟨places, fun start => ?_⟩
      obtain ⟨numbered, met⟩ := ih start
      have noPlace := isPlace
      rw [isPlace_length_iff, ← quote start] at noPlace
      constructor
      · rw [output, written, if_neg noPlace]
        exact numbered.keep isPlace
      · rw [met_append, met, PlaceholderScan.met, if_neg noPlace, PlaceholderScan.met]
        rfl

/-- Integers are written in plain characters. -/
theorem all_isPlainChar_toString (integer : Int) :
    (toString integer).toList.all isPlainChar = true := by
  -- Digits are plain, and so is the sign in front of them.
  have digits : ∀ natural : Nat, (toString natural).toList.all isPlainChar = true := by
    intro natural
    have own : (toString natural).toList = Nat.toDigits 10 natural := Nat.toList_repr
    rw [own, List.all_eq_true]
    intro digit member
    have isDigit := Text.isDigit_toDigits digit member
    by_contra noPlain
    simp only [isPlainChar, Bool.and_eq_true, decide_eq_true_eq, not_and_or, not_not] at noPlain
    rcases noPlain with (rfl | rfl) | rfl <;> exact absurd isDigit (by decide)
  cases integer with
  | ofNat natural => exact digits natural
  | negSucc natural =>
    have sign : "-".toList.all isPlainChar = true := by decide
    have signed : toString (Int.negSucc natural) = "-" ++ toString (natural + 1) := rfl
    rw [signed, String.toList_append, List.all_append, sign, digits]
    rfl

/-- Numbers are written in plain characters. -/
theorem all_isPlainChar_written (count : Int32) :
    ('$' :: (toString count).toList).all isPlainChar = true := by
  rw [List.all_cons, Bool.and_eq_true]
  exact ⟨by decide, all_isPlainChar_toString count.toInt⟩

/-- A character that is no place does to a scan the same whatever has been counted. -/
theorem PlaceholderScan.after_of_not_place {scan : PlaceholderScan} {char : Char}
    (noPlace : ¬ (scan.quote = none ∧ char = '?')) (count : Int32) :
    after ⟨scan.quote, count⟩ char = ⟨(scan.after char).quote, count⟩ := by
  -- Inside of a quotation the count never matters; outside of it only a place adds to it.
  cases quote : scan.quote with
  | some opened => by_cases closes : char = opened <;> simp [after, closes, quote]
  | none =>
    have noMark : char ≠ '?' := fun same => noPlace ⟨quote, same⟩
    by_cases opening : opens char = true <;> simp [after, opening, noMark, quote]

/-- A scan goes through the numbered text like through the text, but meets nothing. -/
theorem scan_numbered (scan : PlaceholderScan) (text : List Char) (count : Nat) :
    (scan.numbered text).foldl after ⟨scan.quote, Int32.ofNat count⟩ =
        ⟨(text.foldl after scan).quote, Int32.ofNat count⟩ ∧
      met ⟨scan.quote, Int32.ofNat count⟩ (scan.numbered text) = 0 := by
  induction text generalizing scan with
  | nil => exact ⟨rfl, rfl⟩
  | cons char rest ih =>
    have first : (scan.written char).foldl after ⟨scan.quote, Int32.ofNat count⟩ =
          ⟨(scan.after char).quote, Int32.ofNat count⟩ ∧
        met ⟨scan.quote, Int32.ofNat count⟩ (scan.written char) = 0 := by
      by_cases place : scan.quote = none ∧ char = '?'
      · -- The number in place of the question mark is plain, so the scan stays outside.
        obtain ⟨unquoted, rfl⟩ := place
        have kept : numberer.Keeps standing ('$' :: (toString (scan.count + 1)).toList) :=
          numberer_replacesPlaces.keeps (all_isPlainChar_written (scan.count + 1))
        obtain ⟨stays, nothing⟩ := scanned_of_writes (kept count)
        obtain ⟨quote, counted⟩ := scan
        subst unquoted
        rw [written, if_pos ⟨rfl, rfl⟩]
        exact ⟨stays, Nat.add_eq_left.mp nothing⟩
      · rw [written, if_neg place]
        refine ⟨after_of_not_place place _, ?_⟩
        rw [met, if_neg place, met]
    rw [numbered, List.foldl_append, met_append, first.1, first.2, List.foldl_cons, Nat.zero_add]
    exact ih (scan.after char)

/-- A numbered text has no places. -/
theorem not_isPlace_numbered (text : List Char) (position : Nat) :
    ¬ IsPlace ((outside 0).numbered text) position := by
  intro isPlace
  obtain ⟨places, numbered⟩ := exists_numbered ((outside 0).numbered text)
  obtain ⟨numbered, count⟩ := numbered 0
  -- The position is one of none.
  have member := (numbered.mem_iff position).mpr isPlace
  have nothing : (outside 0).met ((outside 0).numbered text) = 0 :=
    (scan_numbered (outside 0) text 0).2
  rw [nothing] at count
  rw [List.length_eq_zero_iff.mp count.symm] at member
  exact List.not_mem_nil member

/-- A numbered text stays as it is if it is numbered again. -/
theorem numbered_numbered (text : List Char) :
    (outside 0).numbered ((outside 0).numbered text) = (outside 0).numbered text :=
  numbered_of_met_eq_zero (scan_numbered (outside 0) text 0).2

/-- Behind a text that ends outside quotations, a scan is outside of them. -/
theorem EndsOutside.foldl_after {text : List Char} (closed : EndsOutside text) :
    text.foldl after (outside 0) = outside ((outside 0).met text) := by
  obtain ⟨stretches, reading, closed⟩ := closed
  obtain ⟨later, led⟩ := exists_outside_of_isClosed reading closed 0
  have counted := count_foldl_after_outside 0 text
  rw [Nat.zero_add, led] at counted
  rw [led]
  exact congrArg (PlaceholderScan.mk none) counted

/-- Numbering is a scan from outside of quotations, with nothing counted yet. -/
theorem toList_numberPlaceholders (sql : String) :
    (numberPlaceholders sql).toList = (outside 0).numbered sql.toList :=
  String.toList_ofList

/-- Numbering leaves no places. -/
theorem met_numberPlaceholders (sql : String) :
    met {} (numberPlaceholders sql).toList = 0 := by
  rw [toList_numberPlaceholders]
  exact (scan_numbered (outside 0) sql.toList 0).2

/-- Behind a text that ends outside quotations, the places of another one are numbered on from those
in front. -/
theorem exists_joined {sql : String} (closed : EndsOutside sql.toList) (other : String) :
    ∃ others shifted, met {} (sql ++ other).toList = met {} sql.toList + others.length ∧
      met {} other.toList = others.length ∧
      Numbered heldNumber 0 other.toList (numberPlaceholders other).toList others ∧
      Numbered heldNumber (met {} sql.toList) other.toList shifted others ∧
      (numberPlaceholders (sql ++ other)).toList =
        (numberPlaceholders sql).toList ++ shifted := by
  obtain ⟨others, numbered⟩ := exists_numbered other.toList
  -- The scan of the other text goes on with as many as there were places.
  have behind : sql.toList.foldl after {} = outside (met {} sql.toList) := closed.foldl_after
  refine ⟨others, _, ?_, (numbered 0).2, ?_, (numbered _).1, ?_⟩
  · rw [String.toList_append, met_append, behind, (numbered _).2]
  · rw [toList_numberPlaceholders]
    exact (numbered 0).1
  · rw [toList_numberPlaceholders, toList_numberPlaceholders, String.toList_append, numbered_append,
      closed.foldl_after]
    rfl

/-- A numbering of texts, which need not give an output, does with a text what it should. The output
shows numbers in the stead of the places; it has no places left, and stays as it is if it is numbered
again. If the text ends outside quotations, an output of the text with another one behind it goes on
with the output of that one, with its places numbered on from those in front. -/
structure NumbersPlaces (shown : Nat → String) (numbering : String → Option String) (sql : String)
    (places : List Nat) (output : String) : Prop where
  numbered : Numbered shown 0 sql.toList output.toList places
  settled : ∀ position, ¬ IsPlace output.toList position
  again : numbering output = some output
  joined : EndsOutside sql.toList → ∀ other whole, numbering (sql ++ other) = some whole →
    ∃ own others shifted, numbering other = some own ∧
      Numbered shown 0 other.toList own.toList others ∧
      Numbered shown places.length other.toList shifted others ∧
      whole.toList = output.toList ++ shifted

namespace NumbersPlaces

variable {sql : String} {places : List Nat}

/-- Numbering that does not check for overflow writes the numbers that 32 bits hold. -/
theorem unchecked (numbered : Numbered heldNumber 0 sql.toList (numberPlaceholders sql).toList places)
    (all : met {} sql.toList = places.length) :
    NumbersPlaces heldNumber (fun text => some (numberPlaceholders text)) sql places
      (numberPlaceholders sql) where
  numbered := numbered
  settled position := by
    rw [toList_numberPlaceholders]
    exact not_isPlace_numbered sql.toList position
  again := by
    rw [Option.some_inj, ← String.toList_inj, toList_numberPlaceholders,
      toList_numberPlaceholders]
    exact numbered_numbered sql.toList
  joined := by
    rintro closed other _ ⟨⟩
    obtain ⟨others, shifted, -, -, own, later, joined⟩ := exists_joined closed other
    exact ⟨_, others, shifted, rfl, own, all ▸ later, joined⟩

/-- Where overflow is checked, the numbers that are written are those of the places. -/
theorem checked (numbered : Numbered heldNumber 0 sql.toList (numberPlaceholders sql).toList places)
    (all : met {} sql.toList = places.length) (counted : places.length < 2 ^ 31) :
    NumbersPlaces number numberPlaceholders? sql places (numberPlaceholders sql) where
  numbered := numbered.congr fun count within => heldNumber_eq_number (by omega)
  settled := (unchecked numbered all).settled
  again := by
    rw [numberPlaceholders?_eq, met_numberPlaceholders, if_pos (by decide)]
    exact (unchecked numbered all).again
  joined closed other whole given := by
    obtain ⟨others, shifted, together, met, own, later, joined⟩ := exists_joined closed other
    rw [numberPlaceholders?_eq, together, all, Option.ite_none_right_eq_some,
      Option.some_inj] at given
    obtain ⟨within, rfl⟩ := given
    -- Together the places can be counted, and so they can in each part.
    refine ⟨_, others, shifted, ?_, own.congr fun count bound => heldNumber_eq_number (by omega),
      (all ▸ later).congr fun count bound => heldNumber_eq_number (by omega), joined⟩
    rw [numberPlaceholders?_eq, met, if_pos (by omega)]

end NumbersPlaces

end RowQuery.Wire
