import QuestScript.Text.Basic
import QuestScript.Character.Properties

/-!
# Quoted text

A quoted text stands between double quotes.  Quotes and backslashes in it follow a backslash, line
ends, tabs and the null character have letters of their own, and every other character without a
glyph is given by its code point in braces.
-/

namespace QuestScript.Text

/-- lower-case hexadecimal digits of a code point -/
def hex (n : Nat) : Text := Nat.toDigits 16 n

/-- the spelling of one character between quotes -/
def quotedChar (c : Char) : Text :=
  if c == '\x00' then ['\\', '0']
  else if c == '\t' then ['\\', 't']
  else if c == '\r' then ['\\', 'r']
  else if c == '\n' then ['\\', 'n']
  else if c == '\\' || c == '"' then ['\\', c]
  else if Character.isPrintable c then [c]
  else ['\\', 'u', '\x7b'] ++ hex c.toNat ++ ['\x7d']

/-- the text between double quotes -/
def quoted (t : Text) : Text := '"' :: t.flatMap quotedChar ++ ['"']

end QuestScript.Text
