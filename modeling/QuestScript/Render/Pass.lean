import QuestScript.Render.Segment

/-!
# A render pass

A pass renders the groups of a table level by level, the deepest level first, and within a level
from left to right.  So the groups of a level find the values of the next deeper level on the
anchors there.  A value below the least depth that went into no unit is unattached.
-/

namespace QuestScript

/-- the segments of a pass in the order they were rendered, and the cells they leave -/
structure Pass (V : Type) where
  segments : List (Segment V)
  cells : List (Cell V)
deriving DecidableEq, Repr

namespace Pass

variable {V D : Type}

/-- renders the groups of one level -/
def runGroups (r : Renderer V D) (next : Option Nat) (depth : Nat) (cells : List (Cell V)) :
    List Group → Pass V
  | [] => ⟨[], cells⟩
  | group :: groups =>
    match group.head?, group.getLast? with
    | some start, some stop =>
      let s := Segment.render r next cells depth group start stop
      let p := runGroups r next depth (s.apply cells) groups
      ⟨s :: p.segments, p.cells⟩
    | _, _ => runGroups r next depth cells groups

/-- renders the levels from the last to the first -/
def runLevels (r : Renderer V D) (cells : List (Cell V)) : List Level → Pass V
  | [] => ⟨[], cells⟩
  | level :: deeper =>
    let p := runLevels r cells deeper
    let q := runGroups r (deeper.head?.map Level.depth) level.depth p.cells level.nonEmpty
    ⟨p.segments ++ q.segments, q.cells⟩

/-- the values that went into units, by the ids of their anchors -/
def folded (p : Pass V) : List Nat := p.segments.flatMap Segment.folded

/-- the value kept on a block -/
def value? (p : Pass V) (id : Nat) : Option V := p.cells[id]?.bind (·.state.value?)

/-- the anchors below the least depth that have a value and went into no unit, in order, each with
its depth -/
def unattached (p : Pass V) (table : GroupTable) : List (Nat × Nat) :=
  let anchors := GroupTable.anchors table.tail
  let folded := p.folded
  (p.cells.zipIdx).filterMap fun (c, id) =>
    if id ∈ anchors ∧ id ∉ folded ∧ c.state.value?.isSome then some (id, c.block.indent) else none

/-- the values at the least depth, in order -/
def roots (p : Pass V) (table : GroupTable) : List V := table.roots.filterMap p.value?

end Pass

end QuestScript
