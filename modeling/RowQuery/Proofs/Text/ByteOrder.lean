import Mathlib.Data.List.Lex
import Mathlib.Data.String.Basic
import RowQuery.Text.Utf8

/-!
The order of texts. Texts are ordered character by character, and that is the order of their bytes.
-/

namespace RowQuery.Text

/-- The bytes of a text are those of its characters, one after the other. -/
theorem textBytes_eq (text : String) :
    textBytes text = text.toList.flatMap String.utf8EncodeChar := by
  rw [textBytes, String.toUTF8_eq_toByteArray, ← String.utf8Encode_toList, List.utf8Encode]
  simp

/-- A character that comes before another one has bytes that do, whatever follows them. -/
theorem utf8EncodeChar_append_lt {left right : Char} (less : left < right)
    (rest others : List UInt8) :
    String.utf8EncodeChar left ++ rest < String.utf8EncodeChar right ++ others := by
  have bounded : right.val.toNat < 0x110000 := by
    rcases right.valid with below | ⟨_, above⟩ <;> omega
  have less : left.val.toNat < right.val.toNat := less
  simp only [String.utf8EncodeChar]
  generalize left.val.toNat = low at less
  generalize right.val.toNat = high at less bounded
  -- More bytes start with a greater one; as many are the digits of the characters.
  split_ifs <;>
    simp (disch := omega) only [List.cons_append, List.nil_append, List.cons_lt_cons_iff,
      UInt8.lt_iff_toNat_lt, ← UInt8.toNat_inj, UInt8.toNat_ofNat', Nat.mod_eq_of_lt] <;>
    omega

/-- Characters in order have bytes in order. -/
theorem flatMap_utf8EncodeChar_lt {left right : List Char} (less : left < right) :
    left.flatMap String.utf8EncodeChar < right.flatMap String.utf8EncodeChar := by
  induction less with
  | @nil char rest =>
    -- The bytes of a first character are more than none.
    rw [List.flatMap_nil, List.flatMap_cons]
    have some := String.utf8EncodeChar_ne_nil (c := char)
    obtain ⟨byte, bytes, encoded⟩ := List.exists_cons_of_ne_nil some
    rw [encoded, List.cons_append]
    exact List.nil_lt_cons _ _
  | cons _ ih =>
    rw [List.flatMap_cons, List.flatMap_cons]
    exact List.append_left_lt ih
  | rel less =>
    rw [List.flatMap_cons, List.flatMap_cons]
    exact utf8EncodeChar_append_lt less _ _

/-- Texts are in the order of their bytes. -/
theorem textBytes_lt_iff {left right : String} :
    textBytes left < textBytes right ↔ left < right := by
  have encoded : ∀ {left right : String}, left < right → textBytes left < textBytes right := by
    intro left right less
    rw [textBytes_eq, textBytes_eq]
    exact flatMap_utf8EncodeChar_lt less
  refine ⟨fun less => ?_, encoded⟩
  -- Two texts in any other order have bytes in that order.
  rcases lt_trichotomy left right with ordered | rfl | reversed
  · exact ordered
  · exact absurd less (List.lt_irrefl _)
  · exact absurd less (List.lt_asymm (encoded reversed))

end RowQuery.Text
