import QuestScript.Toml.Fault

/-!
# Blanks, comments and line ends in a configuration text

What may stand between the parts of a configuration text.  A line ends with a line feed, before
which a carriage return may stand.
-/

namespace QuestScript.Toml

def isSpace (c : Char) : Bool := c == ' ' || c == '\t'

def dropSpaces (t : Text) : Text := t.dropWhile isSpace

/-- a character that can stand in a comment -/
def isCommentChar (c : Char) : Bool := c == '\t' || !(c.toNat < 0x20 || c.toNat = 0x7F)

/-- what follows the line end that the text starts with -/
def dropLineEnd? : Text → Option Text
  | '\n' :: t => some t
  | '\r' :: '\n' :: t => some t
  | _ => none

/-- what follows the line end, or nothing at the end of the text -/
def dropLastLineEnd? (t : Text) : Option Text := if t.isEmpty then some [] else dropLineEnd? t

/-- leaves out blanks and line ends -/
def dropBlankLines (t : Text) : Text :=
  match dropLineEnd? (dropSpaces t) with
  | some r => if r.length < t.length then dropBlankLines r else r
  | none => dropSpaces t
termination_by t.length

/-- leaves out a comment, if there is one -/
def dropComment : Text → Text
  | '#' :: t => t.dropWhile isCommentChar
  | t => t

/-- the rest of a line after an entry or a header: blanks and a comment -/
def endOfLine (t : Text) : Except Fault Text :=
  let t := dropComment (dropSpaces t)
  match dropLastLineEnd? t with
  | some t => .ok t
  | none => .error ((Fault.atStart t).expecting ["newline", "\x60#\x60"])

/-- leaves out blanks, line ends and comments that end with their line -/
def dropLines (t : Text) : Except Fault Text :=
  let u := dropSpaces t
  match u with
  | c :: _ =>
    if c == '#' || c == '\n' || c == '\r' then
      match dropLineEnd? (dropComment u) with
      | some r => if r.length < t.length then dropLines r else .ok r
      | none => .error (.atStart (match dropComment u with | '\r' :: r => r | r => r))
    else .ok u
  | [] => .ok u
termination_by t.length

end QuestScript.Toml
