import HostDialing.Text.Combining
import HostDialing.Text.Numeral
import HostDialing.Text.Unprintable

/-!
# Quoted text

Text from outside is shown in messages between double quotes, with a backslash before whatever
would end the quotation or not show: the quote and the backslash themselves, line breaks, tabs and
NUL by a letter, other characters that do not print or that join their neighbour by code point. So
a message stays on one line and the text can be read back from it.
-/

namespace HostDialing

/-- One character as it stands between the quotes. -/
def quotedChar (c : Char) : List Char :=
  match c with
  | '"' => ['\\', '"']
  | '\\' => ['\\', '\\']
  | '\n' => ['\\', 'n']
  | '\r' => ['\\', 'r']
  | '\t' => ['\\', 't']
  | '\x00' => ['\\', '0']
  | c =>
    if isCombining c || isUnprintable c then
      ['\\', 'u', '\x7b'] ++ hexadecimal c.toNat ++ ['\x7d']
    else [c]

/-- A text between double quotes. -/
def quoted (s : String) : String :=
  String.ofList ('"' :: s.toList.flatMap quotedChar ++ ['"'])

end HostDialing
