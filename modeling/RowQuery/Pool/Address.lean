import RowQuery.Text.Hex
import RowQuery.Text.Numeral

/-! Numeric network addresses. -/

namespace RowQuery.Pool

open Text

/-- The parts of a text between separators. -/
def partsBetween (separator : Char) : List Char → List (List Char)
  | [] => [[]]
  | char :: rest =>
    if char = separator then [] :: partsBetween separator rest
    else
      match partsBetween separator rest with
      | part :: parts => (char :: part) :: parts
      | [] => [[char]]

/-- Whether a text is one of the four numbers of a dotted address, without zeros in front. -/
def isOctet (text : List Char) : Bool :=
  text.length ≤ 3 && text.all Char.isDigit && (text.length ≤ 1 || text.head? != some '0') &&
    (naturalBelow? 256 text).isSome

/-- Whether a text is a dotted address of four numbers. -/
def isDottedAddress (text : List Char) : Bool :=
  let octets := partsBetween '.' text
  octets.length = 4 && octets.all isOctet

/-- Whether a text is one group of up to four hexadecimal digits. -/
def isHexGroup (text : List Char) : Bool :=
  text != [] && text.length ≤ 4 && text.all fun digit => (hexValue? digit).isSome

/-- The number of groups in parts; a dotted address may stand at the end for two. -/
def groupCount? (dottedEnd : Bool) : List (List Char) → Option Nat
  | [] => some 0
  | [part] =>
    if isHexGroup part then some 1
    else if dottedEnd && isDottedAddress part then some 2
    else none
  | part :: parts => if isHexGroup part then (groupCount? dottedEnd parts).map (· + 1) else none

/-- The number of groups in a text, which may be empty. -/
def groupCountOfText? (dottedEnd : Bool) (text : List Char) : Option Nat :=
  if text = [] then some 0 else groupCount? dottedEnd (partsBetween ':' text)

/-- What stands before and after the first two colons in a row. -/
def splitAtGap? : List Char → Option (List Char × List Char)
  | ':' :: ':' :: rest => some ([], rest)
  | char :: rest => (splitAtGap? rest).map fun split => (char :: split.1, split.2)
  | [] => none

/-- Whether a text is an address of eight groups, of which one gap may leave out some. -/
def isGroupedAddress (text : List Char) : Bool :=
  match splitAtGap? text with
  | none => groupCountOfText? true text = some 8
  | some (before, after) =>
    match groupCountOfText? false before, groupCountOfText? true after with
    -- A gap stands for one group at least.
    | some front, some back => front + back ≤ 7
    | _, _ => false

/-- Whether a text is a numeric network address of either form. -/
def isNetworkAddress (text : List Char) : Bool :=
  isDottedAddress text || isGroupedAddress text

end RowQuery.Pool
