import QuestScript.Text.Basic

/-!
# Characters and line ends in markup

The classes of characters that the rules of markup are stated with; they are classes of ASCII
characters.  A line ends with a line feed, a carriage return, or both.
-/

namespace QuestScript.Markup

/-- white space within a line -/
def isSpace (c : Char) : Bool := c == ' ' || c == '\t' || c == '\x0b' || c == '\x0c'

def isLineEnd (c : Char) : Bool := c == '\n' || c == '\r'

/-- white space and line ends -/
def isSpaceOrEnd (c : Char) : Bool := isSpace c || isLineEnd c

/-- ASCII punctuation, the characters that can be escaped -/
def isMark (c : Char) : Bool :=
  let n := c.toNat
  (0x21 ≤ n && n ≤ 0x2F) || (0x3A ≤ n && n ≤ 0x40) || (0x5B ≤ n && n ≤ 0x60) ||
    (0x7B ≤ n && n ≤ 0x7E)

/-- what follows the line end that the text starts with -/
def dropLineEnd? : Text → Option Text
  | '\r' :: '\n' :: t => some t
  | '\r' :: t => some t
  | '\n' :: t => some t
  | _ => none

/-- nothing or a line end comes next -/
def atLineEnd : Text → Bool
  | [] => true
  | c :: _ => isLineEnd c

/-- only white space is left of the line -/
def blankAhead (t : Text) : Bool := atLineEnd (t.dropWhile isSpace)

/-- the length of the run of `c` that the text starts with -/
def runLength (c : Char) (t : Text) : Nat := (t.takeWhile (· == c)).length

/-- what follows the first occurrence of `mark` -/
def dropPast? (mark t : Text) : Option Text := (Text.splitAtPart mark t).map Prod.snd

/-- the part of `t` that comes before its end `rest` -/
def upTo (t rest : Text) : Text := t.take (t.length - rest.length)

/-- skips white space, over one line end at most -/
def skipSeparator (t : Text) : Text :=
  let t := t.dropWhile isSpace
  match dropLineEnd? t with
  | some t => t.dropWhile isSpace
  | none => t

end QuestScript.Markup
