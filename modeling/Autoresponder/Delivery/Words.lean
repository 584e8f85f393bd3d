import Autoresponder.Text
/-!
# Shell words

A command line is cut into words as a POSIX shell does, without any expansion.

1. Space, tab and line feed separate words; other blanks are ordinary characters.
2. Everything between single quotation marks is taken as it stands. Between double ones a backslash
   protects `$`, the backquote, the mark itself, the backslash and the line feed, and stays in front
   of every other character. Outside, it protects any character.
3. A backslash before a line feed joins two lines. A backslash at the very end stands for itself.
4. `#` at the start of a word begins a comment, up to the end of the line.
-/

namespace Autoresponder.Words

open Autoresponder (Text)

/-- Where in a command line a character stands. -/
inductive Place where
  | between
  | inWord
  | single
  | double
  /-- Behind a backslash: one that may begin a word, one in a word, and one in double quotation
  marks. -/
  | escapeBetween
  | escapeInWord
  | escapeDouble
  | comment
  deriving DecidableEq, Repr

def isSeparator (c : Char) : Bool := c == ' ' || c == '\t' || c == '\n'

/-- The characters that a backslash protects between double quotation marks. -/
def isProtected (c : Char) : Bool := c == '$' || c == '\x60' || c == '"' || c == '\\'

/-- The words of the rest of a command line. The text that comes first is the part of the current
word that has been read. A quotation mark that is not closed has no words. -/
def splitFrom? : Place → Text → Text → Option (List Text)
  | .between, _, [] => some []
  | .comment, _, [] => some []
  | .inWord, word, [] => some [word]
  | .escapeBetween, word, [] => some [word ++ ['\\']]
  | .escapeInWord, word, [] => some [word ++ ['\\']]
  | .single, _, [] => none
  | .double, _, [] => none
  | .escapeDouble, _, [] => none
  | .between, word, c :: s =>
    if isSeparator c then splitFrom? .between word s
    else if c == '\'' then splitFrom? .single word s
    else if c == '"' then splitFrom? .double word s
    else if c == '\\' then splitFrom? .escapeBetween word s
    else if c == '#' then splitFrom? .comment word s
    else splitFrom? .inWord (word ++ [c]) s
  | .inWord, word, c :: s =>
    if isSeparator c then (splitFrom? .between [] s).map (word :: ·)
    else if c == '\'' then splitFrom? .single word s
    else if c == '"' then splitFrom? .double word s
    else if c == '\\' then splitFrom? .escapeInWord word s
    else splitFrom? .inWord (word ++ [c]) s
  | .escapeBetween, word, c :: s =>
    if c == '\n' then splitFrom? .between word s else splitFrom? .inWord (word ++ [c]) s
  | .escapeInWord, word, c :: s =>
    if c == '\n' then splitFrom? .inWord word s else splitFrom? .inWord (word ++ [c]) s
  | .single, word, c :: s =>
    if c == '\'' then splitFrom? .inWord word s else splitFrom? .single (word ++ [c]) s
  | .double, word, c :: s =>
    if c == '"' then splitFrom? .inWord word s
    else if c == '\\' then splitFrom? .escapeDouble word s
    else splitFrom? .double (word ++ [c]) s
  | .escapeDouble, word, c :: s =>
    if c == '\n' then splitFrom? .double word s
    else if isProtected c then splitFrom? .double (word ++ [c]) s
    else splitFrom? .double (word ++ ['\\', c]) s
  | .comment, word, c :: s =>
    if c == '\n' then splitFrom? .between word s else splitFrom? .comment word s

/-- The words of a command line, unless a quotation mark is not closed. -/
def split? (s : Text) : Option (List Text) := splitFrom? .between [] s

end Autoresponder.Words
