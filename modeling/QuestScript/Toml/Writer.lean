import QuestScript.Text.Basic
import QuestScript.Text.Quoted

/-!
# Writing configuration texts

A text is written between the plainest quotes that it can stand in: double quotes if nothing in it
needs an escape, else single quotes, else triple quotes, and only if none of these will do, double
quotes with escapes.
-/

namespace QuestScript.Toml

/-- a character that cannot stand in a text as it is -/
def isControl (c : Char) : Bool := c.toNat < 0x20 || c.toNat = 0x7F

/-- a character that can stand in a key without quotes -/
def isBareKeyChar (c : Char) : Bool := c.isAlphanum || c == '-' || c == '_'

/-- a run of `n` characters `c` occurs in the text -/
def hasRun (n : Nat) (c : Char) (t : Text) : Bool := Text.hasPart (List.replicate n c) t

/-- a character between double quotes -/
def escapedChar (c : Char) : Text :=
  if c == '\x08' then ['\\', 'b']
  else if c == '\t' then ['\\', 't']
  else if c == '\n' then ['\\', 'n']
  else if c == '\x0c' then ['\\', 'f']
  else if c == '\r' then ['\\', 'r']
  else if c == '\\' || c == '"' then ['\\', c]
  else if isControl c then
    let digits := (Text.hex c.toNat).map Char.toUpper
    ['\\', 'u'] ++ List.replicate (4 - digits.length) '0' ++ digits
  else [c]

/-- a text between `n` quotes on both sides -/
def between (n : Nat) (quote : Char) (t : Text) : Text :=
  List.replicate n quote ++ t ++ List.replicate n quote

/-- a text as a value -/
def writeText (t : Text) : Text :=
  let controls := t.any isControl
  if !controls && !t.contains '\\' && !t.contains '"' then between 1 '"' t
  else if !controls && !t.contains '\'' then between 1 '\'' t
  else if !controls && !t.contains '\\' && !hasRun 3 '"' t then between 3 '"' t
  else if !controls && !hasRun 3 '\'' t then between 3 '\'' t
  else between 1 '"' (t.flatMap escapedChar)

/-- a text as a key -/
def writeKey (t : Text) : Text :=
  if !t.isEmpty && t.all isBareKeyChar then t else writeText t

/-- a table of texts, one line for each -/
def writeEntries (entries : List (Text × Text)) : Text :=
  entries.flatMap fun (k, v) => writeKey k ++ " = ".toList ++ writeText v ++ ['\n']

end QuestScript.Toml
