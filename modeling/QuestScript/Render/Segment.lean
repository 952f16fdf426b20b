import QuestScript.Render.Unit
import QuestScript.Diagnostic.Problem
import QuestScript.Group

/-!
# Segments

A segment is what becomes of one group.  It spans the blocks from the first to the last one of the
group; if a block of the next depth follows right after, it goes on over all deeper blocks that
follow.  Of the blocks it spans, the ones that no unit has taken are members in their own right,
those of the next depth that have a value are folded members, and the others are passed over.

If the first member is a block in its own right, the members form a unit and the segment is
rendered: the blocks are marked as seen, and the value is kept on the anchor.
-/

namespace QuestScript

/-- why a segment has no value, or the unit it was rendered from -/
inductive Outcome (V : Type) where
  | rendered (kind : LineKind) (unit : RenderUnit V) (value : V) (log : List Diagnostic)
  /-- there was no member -/
  | empty
  /-- the first member had a value already -/
  | anchorTaken
deriving DecidableEq, Repr

/-- what the renderer had to say about a unit -/
def Outcome.log {V : Type} : Outcome V → List Diagnostic
  | .rendered _ _ _ log => log
  | _ => []

/-- what became of a group -/
structure Segment (V : Type) where
  group : Group
  members : List (Member V)
  /-- members in their own right whose depth is not that of the group -/
  misplaced : List Nat
  outcome : Outcome V
deriving DecidableEq, Repr

namespace Segment

variable {V D : Type}

/-! ## the blocks of a segment -/

/-- the cells after the last block of a group that still belong to its segment -/
def extension (cells : List (Cell V)) (next : Option Nat) (base stop : Nat) : List (Cell V) :=
  let after := cells.drop (stop + 1)
  if next.isSome && after.head?.map (·.block.indent) == next then
    after.takeWhile (base < ·.block.indent)
  else []

/-- the cells that a segment spans, with their ids -/
def span (cells : List (Cell V)) (next : Option Nat) (base start stop : Nat) :
    List (Cell V × Nat) :=
  ((cells.drop start).take (stop + 1 - start) ++ extension cells next base stop).zipIdx start

/-- a cell as a member, if it is one -/
def member? (next : Option Nat) : Cell V × Nat → Option (Member V)
  | (⟨b, .unset⟩, id) => some (.own id b)
  | (⟨_, .seen⟩, _) => none
  | (⟨b, .value v⟩, id) => if some b.indent = next then some (@Member.folded V id b v) else none

/-- the id of a cell that is a member in its own right at another depth than `base` -/
def misplaced? (base : Nat) : Cell V × Nat → Option Nat
  | (⟨b, .unset⟩, id) => if b.indent = base then none else some id
  | _ => none

/-! ## rendering -/

/-- renders the unit of a list of members; a quest header gets its anchor alone -/
def outcomeOf (r : Renderer V D) : List (Member V) → Outcome V
  | [] => .empty
  | .folded _ _ :: _ => .anchorTaken
  | .own id b :: rest =>
    let u : RenderUnit V := ⟨id, b, if b.kind = .root then [] else rest⟩
    let (value, log) := r.unit b.kind u
    .rendered b.kind u value log

/-- renders the group from `start` to `stop`; `next` is the next greater depth that occurs -/
def render (r : Renderer V D) (next : Option Nat) (cells : List (Cell V)) (base : Nat)
    (group : Group) (start stop : Nat) : Segment V :=
  let cs := span cells next base start stop
  let members := cs.filterMap (member? next)
  ⟨group, members, cs.filterMap (misplaced? base), outcomeOf r members⟩

/-! ## what a segment leaves behind -/

/-- the values that went into the unit, by the ids of their anchors -/
def folded (s : Segment V) : List Nat :=
  match s.outcome with
  | .rendered _ _ _ _ => (s.members.filter Member.isFolded).map Member.id
  | _ => []

/-- the messages of the pass itself about a segment -/
def notices (s : Segment V) : List Diagnostic :=
  let ids := s.members.map Member.id
  s.misplaced.map (fun id => Problem.unsetOutsideBase.on [id]) ++
    match s.outcome with
    | .empty => [Problem.emptyBlockList.on []]
    | .anchorTaken => [Problem.anchorRendered.on ids]
    | .rendered kind _ _ _ =>
      if kind = .root ∧ s.members.length ≠ 1 then [Problem.manyQuestBlocks.on ids] else []

/-- the messages of a segment: those of the pass, then those of the renderer -/
def diagnostics (s : Segment V) : List Diagnostic := s.notices ++ s.outcome.log

/-- the state of the block `id` after a segment -/
def stateAfter (s : Segment V) (id : Nat) (old : RenderState V) : RenderState V :=
  match s.outcome with
  | .rendered _ u value _ =>
    if id = u.anchorId then .value value
    else
      match old with
      | .unset => if id ∈ s.members.map Member.id then .seen else .unset
      | state => state
  | _ => old

/-- the cells after a segment -/
def apply (s : Segment V) (cells : List (Cell V)) : List (Cell V) :=
  cells.mapIdx fun id c => ⟨c.block, s.stateAfter id c.state⟩

end Segment

end QuestScript
