import Autoresponder.Text.Base64
import Autoresponder.Text.Utf8
/-!
# Writing header values

A header value is one line of ASCII. Three functions make such a line of any text:

1. `HeaderText.sanitize` leaves no control character, so that no text can start a line of its own;
2. `HeaderText.encode` writes text beyond ASCII as encoded words of at most 75 characters, each of
   which holds whole characters;
3. `HeaderText.displayName` writes a name in front of an address: between quotes if it is ASCII, as
   encoded words if not.
-/

namespace Autoresponder.HeaderText

/-! ## 1. Control characters -/

/-- Every run of control characters becomes one space. The flag tells whether the run goes on. -/
def closeGaps : Bool → Text → Text
  | _, [] => []
  | inGap, c :: cs =>
    if Text.isControl c then
      if inGap then closeGaps true cs else ' ' :: closeGaps true cs
    else c :: closeGaps false cs

def sanitize (s : Text) : Text := Text.trim (closeGaps false s)

/-! ## 2. Encoded words -/

/-- How many bytes of text one word holds: 45 bytes are 60 characters of Base64. -/
def wordBytes : Nat := 45

/-- Puts a character in front of the first piece. -/
def onFirst (c : Char) : List Text → List Text
  | [] => [[c]]
  | piece :: pieces => (c :: piece) :: pieces

/-- The text in pieces of at most `wordBytes` bytes, each as long as it can be. `used` bytes of the
first piece are already taken. -/
def pieces : Nat → Text → List Text
  | _, [] => [[]]
  | used, c :: cs =>
    let size := (Utf8.encodeChar c).length
    if wordBytes < used + size then [] :: onFirst c (pieces size cs)
    else onFirst c (pieces (used + size) cs)

/-- One encoded word. -/
def word (piece : Text) : Text :=
  "=?UTF-8?B?".toList ++ Base64.encode (Utf8.encode piece) ++ "?=".toList

/-- ASCII stays as it is; other text becomes encoded words with spaces between them. -/
def encode (s : Text) : Text :=
  if Text.isAscii s then s else Text.joinWith [' '] ((pieces 0 s).map word)

/-! ## 3. Display names -/

/-- A character between quotes. -/
def escape (c : Char) : Text := if c == '"' || c == '\\' then ['\\', c] else [c]

def displayName (name : Text) : Text :=
  if Text.isAscii name then '"' :: name.flatMap escape ++ ['"'] else encode name

end Autoresponder.HeaderText
