import RowQuery.Unicode.GraphemeExtend
import RowQuery.Unicode.Printable

/-! Quoted text for reports: quotes, backslashes and whatever has no visible form are escaped. -/

namespace RowQuery.Text

open Unicode

/-- A character inside double quotes. -/
def quotedChar (char : Char) : List Char :=
  match char with
  | '\x00' => ['\\', '0']
  | '\t' => ['\\', 't']
  | '\r' => ['\\', 'r']
  | '\n' => ['\\', 'n']
  | '\\' => ['\\', '\\']
  | '"' => ['\\', '"']
  | plain =>
    -- A combining mark would attach to the quote, so it is escaped like an invisible character.
    if isCombining plain || !isPrintable plain then
      ['\\', 'u', '\x7b'] ++ Nat.toDigits 16 plain.toNat ++ ['\x7d']
    else [plain]

/-- A text in double quotes. -/
def quoted (text : String) : String :=
  String.ofList ('"' :: text.toList.flatMap quotedChar ++ ['"'])

end RowQuery.Text
