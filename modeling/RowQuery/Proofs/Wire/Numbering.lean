import Mathlib.Algebra.Group.Nat.Defs
import RowQuery.Proofs.Statement.Shown
import RowQuery.Wire.Placeholder

/-!
Numbered placeholders. A statement whose names are closed keeps every character but the question
marks at the places of its values: there stand the numbers of the values that are bound.
-/

namespace RowQuery.Wire

namespace PlaceholderScan

/-- A scan whose count is ahead by so many. -/
def ahead (scan : PlaceholderScan) (more : Int32) : PlaceholderScan :=
  { scan with count := scan.count + more }

/-- How many placeholders a scan meets in a text, whether or not it can count them. -/
def met (scan : PlaceholderScan) : List Char → Nat
  | [] => 0
  | char :: rest => (if scan.quote = none ∧ char = '?' then 1 else 0) + (scan.after char).met rest

/-- What a character does to a scan does not depend on how many placeholders it has counted. -/
theorem after_ahead (scan : PlaceholderScan) (more : Int32) (char : Char) :
    (scan.ahead more).after char = (scan.after char).ahead more := by
  cases quote : scan.quote with
  | some opened =>
    by_cases closes : char = opened <;> simp [after, ahead, quote, closes]
  | none =>
    by_cases place : char = '?'
    · -- Only a question mark counts, which opens no quotation.
      have noQuote : opens '?' = false := by decide
      have swapped : scan.count + more + 1 = scan.count + 1 + more := by ac_rfl
      simp [after, ahead, quote, place, noQuote, swapped]
    · by_cases opening : opens char = true <;> simp [after, ahead, quote, opening, place]

/-- What a text does to a scan does not depend on how many placeholders it has counted. -/
theorem foldl_after_ahead (scan : PlaceholderScan) (more : Int32) (text : List Char) :
    text.foldl after (scan.ahead more) = (text.foldl after scan).ahead more := by
  -- The lead is kept from character to character.
  induction text generalizing scan with
  | nil => rfl
  | cons char rest ih => rw [List.foldl_cons, List.foldl_cons, after_ahead, ih]

/-- Neither does what a scan meets. -/
theorem met_ahead (scan : PlaceholderScan) (more : Int32) (text : List Char) :
    (scan.ahead more).met text = scan.met text := by
  induction text generalizing scan with
  | nil => rfl
  | cons char rest ih =>
    rw [met, met, after_ahead, ih]
    rfl

/-- Behind a text, a scan meets what it meets from there. -/
theorem met_append (scan : PlaceholderScan) (left right : List Char) :
    scan.met (left ++ right) = scan.met left + (left.foldl after scan).met right := by
  induction left generalizing scan with
  | nil => exact (Nat.zero_add _).symm
  | cons char rest ih => rw [List.cons_append, met, met, ih, List.foldl_cons, Nat.add_assoc]

/-- A character is counted if it is a placeholder, and else nothing is counted. -/
theorem count_after (scan : PlaceholderScan) (char : Char) :
    (scan.after char).count =
      if scan.quote = none ∧ char = '?' then scan.count + 1 else scan.count := by
  -- Inside quotes nothing counts, and outside only the question mark does.
  cases quote : scan.quote with
  | some opened => by_cases closes : char = opened <;> simp [after, quote, closes]
  | none =>
    by_cases place : char = '?'
    · -- A question mark opens no quotation.
      have noQuote : opens '?' = false := by decide
      simp [after, quote, place, noQuote]
    · by_cases opening : opens char = true <;> simp [after, quote, opening, place]

/-- Behind a text, a scan has counted what it has met, as far as 32 bits hold it. -/
theorem count_foldl_after (scan : PlaceholderScan) (text : List Char) :
    (text.foldl after scan).count = scan.count + Int32.ofNat (scan.met text) := by
  induction text generalizing scan with
  | nil => exact (Int32.add_zero scan.count).symm
  | cons char rest ih =>
    rw [List.foldl_cons, ih, count_after, met, Int32.ofNat_add, ← Int32.add_assoc]
    -- The first character adds one to both, or nothing.
    split
    · rfl
    · rw [show Int32.ofNat 0 = 0 from rfl, Int32.add_zero]

/-- In a text where nothing is met there is no placeholder: wherever a question mark stands, the
scan is inside quotes. -/
theorem quote_ne_none_of_met_eq_zero {scan : PlaceholderScan} {before behind : List Char}
    (nothing : scan.met (before ++ '?' :: behind) = 0) :
    (before.foldl after scan).quote ≠ none := by
  intro outside
  -- The question mark would be met.
  rw [met_append, met, if_pos ⟨outside, rfl⟩] at nothing
  omega

/-- The largest count is the one behind which there are `2 ^ 31`. -/
theorem ofNat_eq_maxValue_iff {count : Nat} (within : count < 2 ^ 31) :
    Int32.ofNat count = Int32.maxValue ↔ count + 1 = 2 ^ 31 := by
  rw [← Int32.toInt_inj, Int32.toInt_ofNat_of_lt within, Int32.toInt_maxValue]
  omega

/-- The count of a scan overflows exactly if with what is met it comes to `2 ^ 31`. -/
theorem overflows_iff {scan : PlaceholderScan} {count : Nat} (within : count < 2 ^ 31)
    (counted : scan.count = Int32.ofNat count) (text : List Char) :
    scan.overflows text = true ↔ 2 ^ 31 ≤ count + scan.met text := by
  induction text generalizing scan count with
  | nil =>
    rw [overflows, met]
    exact iff_of_false nofun (by omega)
  | cons char rest ih =>
    by_cases place : scan.quote = none ∧ char = '?'
    · rw [overflows, met, if_pos place]
      by_cases last : count + 1 = 2 ^ 31
      · -- This is the placeholder that cannot be counted.
        have full := (ofNat_eq_maxValue_iff within).mpr last
        simp only [place, counted, full, decide_true, Bool.and_self, Bool.true_or, true_iff]
        omega
      · -- It is counted, and the rest of the text decides.
        have room : Int32.ofNat count ≠ Int32.maxValue :=
          (ofNat_eq_maxValue_iff within).not.mpr last
        have next : (scan.after char).count = Int32.ofNat (count + 1) := by
          rw [count_after, if_pos place, counted, Int32.ofNat_add]
          rfl
        rw [counted, decide_eq_false room, Bool.and_false, Bool.false_or,
          ih (by omega) next, Nat.add_assoc]
    · -- Nothing is counted here.
      have same : (scan.after char).count = Int32.ofNat count := by
        rw [count_after, if_neg place, counted]
      have noPlace : (decide (scan.quote = none) && decide (char = '?')) = false := by
        simpa using place
      rw [overflows, met, if_neg place, noPlace, Bool.false_and, Bool.false_or, ih within same,
        Nat.zero_add]

end PlaceholderScan

/-- Where overflow is checked there is a text exactly if fewer than `2 ^ 31` placeholders are met. -/
theorem numberPlaceholders?_eq (sql : String) :
    numberPlaceholders? sql =
      if PlaceholderScan.met {} sql.toList < 2 ^ 31 then some (numberPlaceholders sql)
      else none := by
  have start : ({} : PlaceholderScan).count = Int32.ofNat 0 := rfl
  have overflow := PlaceholderScan.overflows_iff (by decide) start sql.toList
  rw [Nat.zero_add] at overflow
  rw [numberPlaceholders?]
  by_cases counted : PlaceholderScan.met {} sql.toList < 2 ^ 31
  · rw [if_neg (by rw [overflow]; omega), if_pos counted]
  · rw [if_pos (by rw [overflow]; omega), if_neg counted]

/-- The numbering of placeholders as rewriting. The state is a scan and, since the count of a scan
can overflow, how many placeholders have been met. -/
def numberer : Rewriter (PlaceholderScan × Nat) where
  after state char := (state.1.after char, state.2 + state.1.met [char])
  written state := state.1.written

/-- Statements are numbered by rewriting. -/
theorem output_numberer (scan : PlaceholderScan) (count : Nat) (text : List Char) :
    numberer.output (scan, count) text = scan.numbered text := by
  -- Both walk over the text with the same scan, a character at a time.
  induction text generalizing scan count with
  | nil => rfl
  | cons char rest ih =>
    rw [Rewriter.output, PlaceholderScan.numbered]
    exact congrArg (scan.written char ++ ·) (ih _ _)

/-- Behind a text, the numbering has scanned it and has met what is in it. -/
theorem final_numberer (scan : PlaceholderScan) (count : Nat) (text : List Char) :
    numberer.final (scan, count) text =
      (text.foldl PlaceholderScan.after scan, count + scan.met text) := by
  induction text generalizing scan count with
  | nil => rfl
  | cons char rest ih =>
    have first : scan.met (char :: rest) = scan.met [char] + (scan.after char).met rest :=
      PlaceholderScan.met_append scan [char] rest
    rw [first, ← Nat.add_assoc]
    exact ih _ _

/-- A text in which nothing is met stays as it is. -/
theorem numbered_of_met_eq_zero {scan : PlaceholderScan} {text : List Char}
    (nothing : scan.met text = 0) : scan.numbered text = text := by
  induction text generalizing scan with
  | nil => rfl
  | cons char rest ih =>
    -- The first character is no placeholder, and in the rest there is none either.
    rw [PlaceholderScan.met, Nat.add_eq_zero_iff] at nothing
    have noPlace : ¬(scan.quote = none ∧ char = '?') := by
      intro place
      rw [if_pos place] at nothing
      omega
    rw [PlaceholderScan.numbered, PlaceholderScan.written, if_neg noPlace, ih nothing.2]
    rfl

/-- A name is closed if a scan that starts outside quotes is outside again behind it, and has met no
placeholder in it. -/
def IsClosed (name : String) : Prop :=
  (name.toList.foldl PlaceholderScan.after {}).quote = none ∧
    PlaceholderScan.met {} name.toList = 0

/-- Where a scan stands outside quotes behind so many placeholders. -/
def outside (count : Nat) : PlaceholderScan :=
  ⟨none, Int32.ofNat count⟩

/-- Where the numbering stands outside quotes behind so many placeholders. -/
def standing (count : Nat) : PlaceholderScan × Nat :=
  (outside count, count)

/-- What the placeholder behind so many others is to be replaced by. -/
def number (position : Nat) : String :=
  "$" ++ toString (position + 1)

/-- What is written for the placeholder behind so many others, with the number as 32 bits hold it. -/
def heldNumber (position : Nat) : String :=
  "$" ++ toString (Int32.ofNat (position + 1))

/-- As long as the count does not overflow, the number that is written is the one that is meant. -/
theorem heldNumber_eq_number {position : Nat} (counted : position + 1 < 2 ^ 31) :
    heldNumber position = number position := by
  have held : toString (Int32.ofNat (position + 1)) =
      toString (Int32.ofNat (position + 1)).toInt := rfl
  rw [heldNumber, held, Int32.toInt_ofNat_of_lt counted]
  rfl

/-- A number is written as a dollar sign and the next count. -/
theorem toList_heldNumber (position : Nat) :
    (heldNumber position).toList = '$' :: (toString ((outside position).count + 1)).toList := by
  have sign : "$".toList = ['$'] := by decide
  have next : Int32.ofNat (position + 1) = (outside position).count + 1 := Int32.ofNat_add _ _
  rw [heldNumber, next, String.toList_append, sign]
  rfl

/-- What is written between two places of the numbering, and how many placeholders are met. -/
theorem scanned_of_writes {start count : Nat} {text result : List Char}
    (writes : numberer.Writes (standing start) text result (standing count)) :
    text.foldl PlaceholderScan.after (outside start) = outside count ∧
      start + (outside start).met text = count := by
  have final := writes.final_eq
  rw [standing, final_numberer] at final
  exact Prod.mk.inj final

/-- A closed name stays as it is. -/
theorem IsClosed.keeps {name : String} (closed : IsClosed name) :
    numberer.Keeps standing name.toList := by
  obtain ⟨unquoted, nothing⟩ := closed
  intro count
  -- The name was scanned from the start, and behind other placeholders it is scanned alike.
  have lead : outside count = PlaceholderScan.ahead {} (Int32.ofNat count) := by
    simp [outside, PlaceholderScan.ahead]
  have unmet : (outside count).met name.toList = 0 := by
    rw [lead, PlaceholderScan.met_ahead, nothing]
  have final : name.toList.foldl PlaceholderScan.after (outside count) = outside count := by
    rw [lead, PlaceholderScan.foldl_after_ahead]
    have counted := PlaceholderScan.count_foldl_after {} name.toList
    rw [nothing] at counted
    simp [PlaceholderScan.ahead, unquoted, counted]
  constructor
  · rw [standing, final_numberer, final, unmet]
    rfl
  · rw [standing, output_numberer]
    exact numbered_of_met_eq_zero unmet

/-- Numbering replaces placeholders by their numbers. -/
theorem numberer_replacesPlaces : numberer.ReplacesPlaces standing heldNumber where
  atPlace position := by
    constructor
    · -- The count of the next state is one more.
      have next : (outside position).after '?' = outside (position + 1) := by
        have noQuote : PlaceholderScan.opens '?' = false := by decide
        simp [PlaceholderScan.after, outside, noQuote, Int32.ofNat_add]
      rw [standing, final_numberer, List.foldl_cons, next]
      rfl
    · -- Outside quotes the number of the next placeholder is one more than those already met.
      rw [standing, output_numberer, toList_heldNumber]
      simp [PlaceholderScan.numbered, PlaceholderScan.written, outside]
  atPlain char plain := by
    simp only [isPlainChar, Bool.and_eq_true, decide_eq_true_eq] at plain
    -- A plain character opens no quotation and is no placeholder.
    obtain ⟨⟨noPlace, noQuote⟩, noDoubleQuote⟩ := plain
    have noOpening : PlaceholderScan.opens char = false := by
      simp [PlaceholderScan.opens, noQuote, noDoubleQuote]
    intro count
    constructor
    · simp [Rewriter.final, numberer, standing, PlaceholderScan.after, PlaceholderScan.met, outside,
        noOpening, noPlace]
    · simp [Rewriter.output, numberer, standing, PlaceholderScan.written, noPlace]

/-- No placeholder in a text is directly followed by a digit, the text itself being followed by the
given character or by nothing. -/
def NoDigitBehind (scan : PlaceholderScan) (text : List Char) (next? : Option Char) : Prop :=
  ∀ before behind, text = before ++ '?' :: behind →
    (before.foldl PlaceholderScan.after scan).quote = none →
      ∀ char ∈ behind.head?.or next?, char.isDigit = false

namespace NoDigitBehind

variable {scan between : PlaceholderScan} {left right : List Char} {next? : Option Char}

/-- Behind another text, a text starts with what follows the placeholders of that one. -/
theorem append (first : NoDigitBehind scan left (right.head?.or next?))
    (middle : left.foldl PlaceholderScan.after scan = between)
    (second : NoDigitBehind between right next?) : NoDigitBehind scan (left ++ right) next? := by
  intro before behind split outside char follows
  -- The placeholder stands on one side of the cut.
  rcases List.append_eq_append_iff.mp split with ⟨inside, rfl, rest⟩ | ⟨inside, whole, rest⟩
  · -- The placeholder is in the second text.
    rw [List.foldl_append, middle] at outside
    exact second inside behind rest outside char follows
  · cases inside with
    | nil =>
      -- It is the first character of the second text.
      rw [List.append_nil] at whole
      rw [← whole, middle] at outside
      exact second [] behind rest.symm outside char follows
    | cons place others =>
      -- It is in the first text, and what follows may be the start of the second one.
      rw [List.cons_append, List.cons.injEq] at rest
      obtain ⟨rfl, rfl⟩ := rest
      rw [List.head?_append, Option.or_assoc] at follows
      exact first before others whole outside char follows

/-- In a text that stays as it is there is no placeholder. -/
theorem of_keeps (kept : numberer.Keeps standing left) (count : Nat) :
    NoDigitBehind (outside count) left next? := by
  intro before behind split unquoted
  -- It would be met, but nothing is.
  have nothing : (outside count).met (before ++ '?' :: behind) = 0 := by
    rw [← split]
    exact Nat.add_eq_left.mp (scanned_of_writes (kept count)).2
  exact absurd unquoted (PlaceholderScan.quote_ne_none_of_met_eq_zero nothing)

/-- A placeholder is followed by what follows it. -/
theorem place (position : Nat) (noDigit : ∀ char ∈ next?, char.isDigit = false) :
    NoDigitBehind (outside position) ['?'] next? := by
  intro before behind split _ char follows
  -- Nothing stands in front of it or behind it.
  obtain ⟨rfl, rfl⟩ : before = [] ∧ behind = [] := by
    cases before with
    | nil => simpa using split.symm
    | cons first rest => simp at split
  exact noDigit char follows

/-- A placeholder is counted. -/
theorem after_place (position : Nat) :
    ['?'].foldl PlaceholderScan.after (outside position) = outside (position + 1) :=
  (scanned_of_writes (numberer_replacesPlaces.atPlace position)).1

/-- In the text of symbols, every placeholder is followed by a blank or by what follows the text. -/
theorem spell {symbols : List Symbol} (chain : symbols.IsChain Symbol.MayPrecede)
    (names : ∀ name, .name name ∈ symbols → numberer.Keeps standing name.toList)
    (noDigit : ∀ char ∈ next?, char.isDigit = false) (position : Nat) :
    NoDigitBehind (outside position) (Symbol.spell Condition.questionMark position symbols)
      next? := by
  induction symbols generalizing position with
  | nil => exact of_keeps .nil position
  | cons symbol rest ih =>
    obtain ⟨behind, chainRest⟩ := List.isChain_cons.mp chain
    have later := ih chainRest (fun name member => names name (List.mem_cons_of_mem _ member))
      (position + symbol.bound?.toList.length)
    have named : ∀ name, symbol = .name name → numberer.Keeps standing name.toList :=
      fun name same => names name (same ▸ List.mem_cons_self)
    rw [Symbol.spell]
    cases symbol with
    | place bound =>
      have mark : ((Symbol.place bound).text (Condition.questionMark position)).toList = ['?'] :=
        (by decide : "?".toList = ['?'])
      rw [mark]
      refine append (place position fun char follows => ?_) (after_place position) later
      cases rest with
      | nil => exact noDigit char follows
      | cons next others =>
        -- The next symbol starts with a blank.
        have apart : next.startsApart = true := behind next rfl rfl
        rw [Symbol.head?_spell apart, Option.some_or, Option.mem_some] at follows
        rw [← follows]
        decide
    | _ =>
      -- No other symbol has a placeholder.
      have kept := numberer_replacesPlaces.keeps_text rfl named (Condition.questionMark position)
      exact append (of_keeps kept position) (scanned_of_writes (kept position)).1 later

/-- In a separated list, every placeholder is followed by a comma or by what follows the list. -/
theorem places (noDigit : ∀ char ∈ next?, char.isDigit = false) (values : List Value)
    (position : Nat) :
    NoDigitBehind (outside position)
      (", ".intercalate (values.mapIdx Condition.questionMark)).toList next? := by
  induction values generalizing position with
  | nil => exact of_keeps .nil position
  | cons value rest ih =>
    have mark : (Condition.questionMark 0 value).toList = ['?'] := (by decide : "?".toList = ['?'])
    cases rest with
    | nil =>
      have alone : ", ".intercalate ([value].mapIdx Condition.questionMark) =
          Condition.questionMark 0 value := by simp
      rw [alone, mark]
      exact place position noDigit
    | cons other others =>
      have comma : numberer.Keeps standing ", ".toList := numberer_replacesPlaces.keeps (by decide)
      have later := append (of_keeps comma (position + 1)) (scanned_of_writes (comma (position + 1))).1
        (ih (position + 1))
      rw [Insertion.intercalate_mapIdx_cons _ _ (List.cons_ne_nil _ _), String.toList_append,
        String.toList_append, mark, List.append_assoc]
      refine append (place position fun char follows => ?_) (after_place position) later
      -- The separator starts with the comma.
      have start : ", ".toList = [',', ' '] := by decide
      rw [start, List.cons_append, List.head?_cons, Option.some_or, Option.mem_some] at follows
      rw [← follows]
      decide

end NoDigitBehind

/-- A placeholder is followed in the numbered text by what follows it in the text. -/
theorem NoDigitBehind.numbered {text : List Char} (noDigit : NoDigitBehind (outside 0) text none)
    {before behind : List Char} (split : text = before ++ '?' :: behind)
    (unquoted : (before.foldl PlaceholderScan.after (outside 0)).quote = none) {char : Char}
    (follows : char ∈ (((before.foldl PlaceholderScan.after (outside 0)).after '?').numbered
      behind).head?) : char.isDigit = false := by
  cases behind with
  | nil => simp [PlaceholderScan.numbered] at follows
  | cons next rest =>
    have own : next.isDigit = false := noDigit before (next :: rest) split unquoted next rfl
    rw [PlaceholderScan.numbered, PlaceholderScan.written] at follows
    -- It is the character itself or the sign of another number.
    split at follows
    · obtain rfl : '$' = char := by simpa using follows
      decide
    · obtain rfl : next = char := by simpa using follows
      exact own

end RowQuery.Wire
