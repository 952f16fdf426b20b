import QuestScript.Block.Basic
import QuestScript.Text.Lines

/-!
# From a script to its blocks

Blank lines stand between blocks and belong to none.  Of two lines that follow each other, the
second joins the block of the first if it is indented to the same depth and is no header line.
Blocks keep their lines without the white space on either side.
-/

namespace QuestScript

open Character (isBlank)

namespace Line

/-- the columns a character of indentation takes -/
def column (c : Char) : Nat := if c == '\t' then 2 else 1

/-- the columns of white space that a line starts with -/
def margin : Text → Nat
  | [] => 0
  | c :: line => if isBlank c then column c + margin line else 0

/-- depth of indentation: two columns of white space to a level -/
def indent (line : Text) : Nat := margin line / 2

end Line

namespace Block

/-- the block of the single line `n` -/
def ofLine (n : Nat) (line : Text) : Block := ⟨Line.indent line, [Text.trim line], n⟩

/-- the block goes on from the line `n` at the depth `indent` that stands above it -/
def continues (b : Block) (n indent : Nat) : Bool :=
  b.startLine == n + 1 && b.indent == indent && !b.isHeader

/-- the blocks of lines that are numbered from `n` on -/
def ofLines (n : Nat) : List Text → List Block
  | [] => []
  | line :: rest =>
    if line.all isBlank then ofLines (n + 1) rest
    else
      match ofLines (n + 1) rest with
      | [] => [ofLine n line]
      | b :: bs =>
        if b.continues n (Line.indent line) then
          ⟨b.indent, Text.trim line :: b.lines, n⟩ :: bs
        else ofLine n line :: b :: bs

/-- the blocks of a script -/
def ofSource (source : Text) : List Block := ofLines 0 (Text.lines source)

end Block

end QuestScript
