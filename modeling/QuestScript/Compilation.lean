import QuestScript.Render.Pass
import QuestScript.Block.Source
import QuestScript.Diagnostic.Log

/-!
# Compilations

A compilation is all that a render of a script gives: the document, the diagnostics, the states of
the blocks, and the means to find the value that a source line belongs to.

A session keeps the last compilation, so that a script can be looked at, edited and rendered again;
the diagnostics of a compilation are taken once.
-/

namespace QuestScript

/-- the outcome of rendering a list of blocks -/
structure Compilation (V D : Type) where
  cells : List (Cell V)
  table : GroupTable
  segments : List (Segment V)
  /-- values that went nowhere, by anchor and depth -/
  unattached : List (Nat × Nat)
  roots : List V
  document : D
  diagnostics : List Diagnostic

namespace Compilation

variable {V D : Type}

/-- renders a list of blocks, some of which may carry states from an earlier render -/
def ofCells (r : Renderer V D) (cells : List (Cell V)) : Compilation V D :=
  let table := GroupTable.build (cells.map Cell.block)
  let pass := Pass.runLevels r cells table
  let unattached := pass.unattached table
  let roots := pass.roots table
  let (document, log) := r.document roots
  { cells := pass.cells
    table := table
    segments := pass.segments
    unattached := unattached
    roots := roots
    document := document
    diagnostics :=
      pass.segments.flatMap Segment.diagnostics ++
        unattached.map (fun (id, depth) => (Problem.unattached depth).on [id]) ++ log }

/-- renders blocks that no render has met -/
def ofBlocks (r : Renderer V D) (blocks : List Block) : Compilation V D :=
  ofCells r (blocks.map Cell.fresh)

/-- renders a script -/
def ofSource (r : Renderer V D) (source : Text) : Compilation V D :=
  ofBlocks r (Block.ofSource source)

def blocks (c : Compilation V D) : List Block := c.cells.map Cell.block

/-- the value kept on a block -/
def value? (c : Compilation V D) (id : Nat) : Option V := c.cells[id]?.bind (·.state.value?)

/-- the messages of the pass itself, without those of the renderer -/
def notices (c : Compilation V D) : List Diagnostic :=
  c.segments.flatMap Segment.notices ++
    c.unattached.map fun (id, depth) => (Problem.unattached depth).on [id]

/-- the value of the group that the source line `n` belongs to -/
def valueAt? (c : Compilation V D) (n : Nat) : Option V :=
  (Block.atLine? c.blocks n).bind fun id => c.value? (c.table.owner id)

/-- what the first block says about the quest -/
def metadata (r : Renderer V D) (c : Compilation V D) : List (Text × Text) :=
  r.metadata c.blocks.head?

end Compilation

/-- a renderer and the last render it did -/
structure Session (V D : Type) where
  renderer : Renderer V D
  last : Option (Compilation V D)
  /-- the diagnostics of the last render, until they are taken -/
  pending : Option Categorized

namespace Session

variable {V D : Type}

/-- a session that has rendered nothing -/
def start (r : Renderer V D) : Session V D := ⟨r, none, none⟩

def cells (s : Session V D) : List (Cell V) := (s.last.map Compilation.cells).getD []

/-- renders a list of blocks in place of what was rendered before -/
def render (s : Session V D) (cells : List (Cell V)) : Session V D :=
  let c := Compilation.ofCells s.renderer cells
  ⟨s.renderer, some c, some (Categorized.ofList c.diagnostics)⟩

/-- renders a script in place of what was rendered before -/
def renderSource (s : Session V D) (source : Text) : Session V D :=
  s.render ((Block.ofSource source).map Cell.fresh)

/-- renders the same blocks once more, with the states they have or with none -/
def rerender (s : Session V D) (forget : Bool) : Session V D :=
  s.render (if forget then s.cells.map (fun c => Cell.fresh c.block) else s.cells)

def valueAt? (s : Session V D) (n : Nat) : Option V := s.last.bind (·.valueAt? n)

def table (s : Session V D) : GroupTable := (s.last.map Compilation.table).getD []

def metadata (s : Session V D) : List (Text × Text) :=
  s.renderer.metadata (s.cells.head?.map Cell.block)

/-- hands out the diagnostics of the last render, and hands them out once -/
def takeDiagnostics (s : Session V D) : Option Categorized × Session V D :=
  (s.pending, ⟨s.renderer, s.last, none⟩)

end Session

end QuestScript
