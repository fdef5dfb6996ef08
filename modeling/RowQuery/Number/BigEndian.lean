/-! Numbers as bytes with the most significant one first. -/

namespace RowQuery.Number

/-- The lowest bytes of a number, as many as asked for. -/
def bigEndian : (width : Nat) → Nat → List UInt8
  | 0, _ => []
  | width + 1, number => UInt8.ofNat (number / Nat.pow 256 width) :: bigEndian width number

/-- The number that bytes stand for. -/
def ofBigEndian (bytes : List UInt8) : Nat :=
  bytes.foldl (fun number byte => 256 * number + byte.toNat) 0

/-- An integer in two's complement. -/
def signedBigEndian (width : Nat) (integer : Int) : List UInt8 :=
  bigEndian width (integer % (Nat.pow 256 width : Nat)).toNat

/-- The integer that bytes in two's complement stand for. -/
def ofSignedBigEndian (bytes : List UInt8) : Int :=
  Int.bmod (ofBigEndian bytes) (Nat.pow 256 bytes.length)

end RowQuery.Number
