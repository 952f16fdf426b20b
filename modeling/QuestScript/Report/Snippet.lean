import QuestScript.Report.Basic
import QuestScript.Report.Style
import QuestScript.Character.Properties

/-!
# Snippets

A report with labels shows the lines of the source that they cover.  A label within one line is
underlined.  A label over several lines has a column of its own to the left of the source, where it
is drawn from its first line to its last; of a long label, the first four lines and the last two are
shown.

* `Placed`       a label with the lines it covers;
* `LineMark`     what is drawn of a label beside a line;
* `Snippet.lines` the lines that are shown.
-/

namespace QuestScript

/-- a label with the lines it starts and ends in, and the bytes before it in these lines -/
structure Placed where
  primary : Bool
  startLine : Nat
  startColumn : Nat
  stopLine : Nat
  stopColumn : Nat
deriving DecidableEq, Repr

/-- what is drawn of a label over several lines beside one of them -/
inductive LineMark where
  | top (column : Nat)
  | left
  | bottom (column : Nat)
deriving DecidableEq, Repr

/-- a mark beside a line: the column it is drawn in, and its label -/
structure SideMark where
  column : Nat
  primary : Bool
  mark : LineMark
deriving DecidableEq, Repr

namespace Placed

/-- finds the place of a label -/
def ofLabel (lines : List Text) (l : Label) : Placed :=
  let (startLine, startColumn) := Span.lineOf l.span.start lines
  let (stopLine, stopColumn) := Span.lineOf l.span.stop lines
  ⟨l.primary, startLine, startColumn, stopLine, stopColumn⟩

def isSingle (p : Placed) : Bool := p.startLine == p.stopLine

/-- the lines of a label that are shown: those at its start and those at its end -/
def shows (p : Placed) (line : Nat) : Bool :=
  p.startLine ≤ line && line ≤ p.stopLine && (line - p.startLine ≤ 3 || p.stopLine - line ≤ 1)

/-- what is drawn of a label over several lines beside the line `n` -/
def mark? (p : Placed) (n : Nat) : Option LineMark :=
  if n = p.startLine then some (.top p.startColumn)
  else if n = p.stopLine then some (.bottom p.stopColumn)
  else if p.startLine < n ∧ n < p.stopLine then some .left
  else none

/-- the bytes of the line that a label within one line underlines; there is at least one -/
def underlined (p : Placed) : Span := ⟨p.startColumn, max p.stopColumn (p.startColumn + 1)⟩

end Placed

/-- a line of a snippet -/
structure SnippetLine where
  /-- counted from 0 -/
  index : Nat
  /-- the text without its line end -/
  source : Text
  singles : List (Bool × Span)
  marks : List SideMark
deriving DecidableEq, Repr

/-- what a snippet shows, line by line -/
inductive SnippetRow where
  | line (l : SnippetLine)
  /-- lines are left out before a line with these marks -/
  | gap (marks : List SideMark)
deriving DecidableEq, Repr

namespace Snippet

/-- the labels over several lines, each with its column -/
def columns (labels : List Placed) : List (Placed × Nat) :=
  (labels.filter (!·.isSingle)).zipIdx

/-- the marks beside the line `n` -/
def marksAt (labels : List Placed) (n : Nat) : List SideMark :=
  (columns labels).filterMap fun (p, column) =>
    (p.mark? n).map fun mark => ⟨column, p.primary, mark⟩

/-- a source line without the line end and the null characters at its end -/
def shownText (line : Text) : Text :=
  Text.dropWhileEnd (fun c => c == '\n' || c == '\r' || c == '\x00') line

/-- the line `n` with its labels -/
def lineAt (lines : List Text) (labels : List Placed) (n : Nat) : SnippetLine :=
  { index := n
    source := shownText (lines[n]?.getD [])
    singles :=
      (labels.filter fun p => p.isSingle && p.startLine == n).map fun p => (p.primary, p.underlined)
    marks := marksAt labels n }

/-- the numbers of the lines that labels show, ascending -/
def shown (lines : List Text) (labels : List Placed) : List Nat :=
  (List.range lines.length).filter fun n => labels.any (·.shows n)

/-- the rows for lines that are shown: one line left out between two of them is shown as well, more
lines leave a gap -/
def rowsOf (lines : List Text) (labels : List Placed) : List Nat → List SnippetRow
  | [] => []
  | [n] => [.line (lineAt lines labels n)]
  | n :: m :: rest =>
    let between : List SnippetRow :=
      if m = n + 1 then []
      else if m = n + 2 then [.line (lineAt lines labels (n + 1))]
      else [.gap (marksAt labels m)]
    .line (lineAt lines labels n) :: between ++ rowsOf lines labels (m :: rest)

/-- the rows of a snippet -/
def rows (lines : List Text) (labels : List Placed) : List SnippetRow :=
  rowsOf lines labels (shown lines labels)

/-- the label that a snippet is named after: the first primary one, or the first one -/
def leading? (labels : List Placed) : Option Placed :=
  (labels.find? (·.primary)).or labels.head?

end Snippet

end QuestScript
