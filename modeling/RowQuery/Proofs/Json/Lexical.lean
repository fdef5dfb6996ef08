import RowQuery.Json.Node
import RowQuery.Json.Writer

/-!
Strings in a JSON text. What the writer puts down for one is read as the same string, up to where it
ends.
-/

namespace RowQuery

open Text

namespace JsonNode

/-- The two digits of a small code unit are read. -/
theorem codeUnit?_hexDigit {unit : Nat} (small : unit < 0x20) :
    codeUnit? '0' '0' (hexDigit (unit / 16)) (hexDigit (unit % 16)) = some unit := by
  -- There are thirty-two of them.
  have all : ∀ unit < 0x20,
      codeUnit? '0' '0' (hexDigit (unit / 16)) (hexDigit (unit % 16)) = some unit := by decide
  exact all unit small

/-- A small code unit is a character of its own. -/
theorem charsOfPieces?_small {unit : Nat} (small : unit < 0x20) (pieces : List StringPiece) :
    charsOfPieces? (.unit unit :: pieces) =
      (charsOfPieces? pieces).map (Char.ofNat unit :: ·) := by
  -- It is no half of a pair, whatever comes behind it.
  have noHigh : isHighSurrogate unit = false := by simp [isHighSurrogate]; omega
  have noLow : isLowSurrogate unit = false := by simp [isLowSurrogate]; omega
  cases pieces with
  | nil => simp [charsOfPieces?, noHigh, noLow]
  | cons piece pieces =>
    cases piece with
    | char value => simp [charsOfPieces?, noHigh, noLow]
    | unit low => simp [charsOfPieces?, noHigh, noLow]

/-- A character in a string is written as one piece, which is read as that character. -/
theorem exists_piece (char : Char) :
    ∃ piece, (∀ rest, stringPieces? (Json.escapedChar char ++ rest) =
        (stringPieces? rest).map fun read => (piece :: read.1, read.2)) ∧
      ∀ pieces, charsOfPieces? (piece :: pieces) =
        (charsOfPieces? pieces).map (char :: ·) := by
  have plain : ∀ pieces, charsOfPieces? (.char char :: pieces) =
      (charsOfPieces? pieces).map (char :: ·) := fun pieces => by rw [charsOfPieces?]
  unfold Json.escapedChar
  -- The cases are those of the writer: seven short escapes, the other controls, and the rest.
  split
  case h_8 noQuote noBackslash _ _ _ _ _ =>
    split
    · rename_i control
      refine ⟨.unit char.toNat, fun rest => ?_, fun pieces => ?_⟩
      · simp only [List.cons_append, List.nil_append]
        rw [stringPieces?, codeUnit?_hexDigit control]
        cases stringPieces? rest <;> rfl
      · rw [charsOfPieces?_small control, Char.ofNat_toNat]
    · rename_i printable
      refine ⟨.char char, fun rest => ?_, plain⟩
      rw [List.singleton_append, stringPieces?]
      · have allowed : ¬ (decide (char.toNat < 0x20) || decide (char = '\\')) = true := by
          simpa using And.intro (Nat.le_of_not_lt printable) noBackslash
        rw [if_neg allowed]
        cases stringPieces? rest <;> rfl
      all_goals simp_all
  all_goals
    refine ⟨_, fun rest => ?_, plain⟩
    simp only [List.cons_append, List.nil_append]
    rw [stringPieces?]
    · cases stringPieces? rest <;> rfl
    · simp

/-- A string is read back up to its closing quote. -/
theorem string?_escaped (text : String) (rest : List Char) :
    string? (text.toList.flatMap Json.escapedChar ++ '"' :: rest) = some (some text, rest) := by
  -- Character by character there is one more piece, which spells the character.
  have general : ∀ chars : List Char, ∃ pieces,
      stringPieces? (chars.flatMap Json.escapedChar ++ '"' :: rest) = some (pieces, rest) ∧
        charsOfPieces? pieces = some chars := by
    intro chars
    induction chars with
    | nil => exact ⟨[], by simp [stringPieces?], by simp [charsOfPieces?]⟩
    | cons char chars ih =>
      obtain ⟨pieces, read, spelled⟩ := ih
      obtain ⟨piece, first, spells⟩ := exists_piece char
      refine ⟨piece :: pieces, ?_, ?_⟩
      · rw [List.flatMap_cons, List.append_assoc, first, read, Option.map_some]
      · rw [spells, spelled, Option.map_some]
  obtain ⟨pieces, read, spelled⟩ := general text.toList
  simp [string?, read, spelled]

/-- A string is read between its quotes. -/
theorem string?_stringText (text : String) (rest : List Char) :
    ∃ inner, Json.stringText text ++ rest = '"' :: inner ∧
      string? inner = some (some text, rest) := by
  refine ⟨_, rfl, ?_⟩
  simpa using string?_escaped text rest

end JsonNode

end RowQuery
