import Autoresponder.Text.Unprintable
import Autoresponder.Text
/-!
# Quoted text

A text between double quotes, as error messages show it. The quote and the backslash have a
backslash before them, tab, line feed, carriage return and NUL have short forms, and a character
without a printed form is shown by its code point in small hexadecimal digits: `\u{7f}`.
-/

namespace Autoresponder.Text

/-- The code point of a character as its shortest run of hexadecimal digits. -/
def codePoint (c : Char) : Text := Nat.toDigits 16 c.toNat

/-- One character as it stands between quotes. -/
def quotedChar (c : Char) : Text :=
  if c == '\x00' then ['\\', '0']
  else if c == '\t' then ['\\', 't']
  else if c == '\r' then ['\\', 'r']
  else if c == '\n' then ['\\', 'n']
  else if c == '"' || c == '\\' then ['\\', c]
  else if isUnprintable c then ['\\', 'u', '\x7b'] ++ codePoint c ++ ['\x7d']
  else [c]

def quoted (s : Text) : Text := '"' :: s.flatMap quotedChar ++ ['"']

end Autoresponder.Text
