import QuestScript.Line

/-!
# Blocks

A block is a run of lines at one depth of indentation.  Blocks are named by their position in the
list of blocks.
-/

namespace QuestScript

/-- lines that stand together, without their indentation -/
structure Block where
  /-- depth of indentation -/
  indent : Nat
  lines : List Text
  /-- the source line of the first line, counted from 0 -/
  startLine : Nat
deriving DecidableEq, Repr

namespace Block

/-- the line that decides what the block is -/
def firstLine? (b : Block) : Option Text := b.lines.head?

/-- the block opens a group of its own -/
def isHeader (b : Block) : Bool := b.firstLine?.any Line.isHeader

/-- the block always stands alone in its group: a trigger or a quest header -/
def isIsolated (b : Block) : Bool :=
  b.firstLine?.any fun line => Line.isTrigger line || Line.isRoot line

/-- what the block announces -/
def kind (b : Block) : LineKind := Line.kind (b.firstLine?.getD [])

/-- the source line `n` belongs to the block -/
def hasLine (b : Block) (n : Nat) : Bool :=
  b.startLine ≤ n && n < b.startLine + b.lines.length

/-- the first block a source line belongs to -/
def atLine? (blocks : List Block) (n : Nat) : Option Nat := blocks.findIdx? (·.hasLine n)

end Block

end QuestScript
