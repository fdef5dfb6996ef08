import Mathlib.Tactic.Ring
import RowQuery.Number.BigEndian

/-!
Numbers read back from their bytes. As many bytes as asked for keep a number up to a power of 256,
and two's complement keeps the integers of half that size on both sides of zero.
-/

namespace RowQuery.Number

/-- A number takes as many bytes as asked for. -/
@[simp] theorem length_bigEndian (width number : Nat) :
    (bigEndian width number).length = width := by
  induction width with
  | zero => rfl
  | succ width ih => simp [bigEndian, ih]

/-- An integer takes as many bytes as asked for. -/
@[simp] theorem length_signedBigEndian (width : Nat) (integer : Int) :
    (signedBigEndian width integer).length = width := by
  simp [signedBigEndian]

/-- The bytes of a number are read as what is left of it by the power of 256 that they can hold. -/
theorem ofBigEndian_bigEndian (width number : Nat) :
    ofBigEndian (bigEndian width number) = number % 256 ^ width := by
  -- Bytes that were read before count by as many places as there are bytes to come.
  have general : ∀ read, (bigEndian width number).foldl
      (fun number byte => 256 * number + byte.toNat) read =
        read * 256 ^ width + number % 256 ^ width := by
    induction width with
    | zero => intro read; simp [bigEndian, Nat.mod_one]
    | succ width ih =>
      intro read
      have byte : (UInt8.ofNat (number / 256 ^ width)).toNat = number / 256 ^ width % 256 := by
        simp
      rw [bigEndian, List.foldl_cons, ih, Nat.pow_eq, byte, Nat.mod_pow_succ, Nat.pow_succ]
      ring
  simpa [ofBigEndian] using general 0

/-- A number that fits its bytes is read back from them. -/
theorem ofBigEndian_bigEndian_of_lt {width number : Nat} (fits : number < 256 ^ width) :
    ofBigEndian (bigEndian width number) = number := by
  rw [ofBigEndian_bigEndian, Nat.mod_eq_of_lt fits]

/-- An integer that fits its bytes in two's complement is read back from them. -/
theorem ofSignedBigEndian_signedBigEndian {width : Nat} {integer : Int}
    (above : -(256 ^ width : Nat) ≤ 2 * integer) (below : 2 * integer < (256 ^ width : Nat)) :
    ofSignedBigEndian (signedBigEndian width integer) = integer := by
  have positive : 0 < 256 ^ width := Nat.pow_pos (by decide)
  have residue : 0 ≤ integer % (256 ^ width : Nat) := Int.emod_nonneg _ (by omega)
  have fits : (integer % (256 ^ width : Nat)).toNat < 256 ^ width := by
    have bound := Int.emod_lt_of_pos integer (b := (256 ^ width : Nat)) (by omega)
    omega
  -- The bytes are those of the residue, which the reader brings back to its side of zero.
  rw [ofSignedBigEndian, length_signedBigEndian, signedBigEndian, Nat.pow_eq,
    ofBigEndian_bigEndian_of_lt fits, Int.toNat_of_nonneg residue, Int.emod_bmod]
  exact Int.bmod_eq_of_le (by omega) (by omega)

end RowQuery.Number
