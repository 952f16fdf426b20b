import QuestScript.Block.Basic
import QuestScript.Text.Span

/-!
# Spans of blocks

A block spans its lines in full, the line feed of the last one included.
-/

namespace QuestScript.Block

/-- the bytes of the lines of a block; a block without lines spans the line it starts on -/
def span? (lines : List Text) (b : Block) : Option Span :=
  Span.ofLines? lines b.startLine (b.startLine + (b.lines.length - 1))

/-- the spans of the blocks with the given ids; blocks that are not in the source have none -/
def spans (source : Text) (blocks : List Block) (ids : List Nat) : List Span :=
  let lines := Text.allLines source
  ids.filterMap fun id => blocks[id]?.bind (·.span? lines)

end QuestScript.Block
