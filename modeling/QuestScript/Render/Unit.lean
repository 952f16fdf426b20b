import QuestScript.Diagnostic.Basic
import QuestScript.Block.Basic

/-!
# Units and renderers

A unit is what a renderer is given at a time: the blocks of a group, in order, and between them the
values of the groups one level deeper that were folded into it.  The first member of a unit, its
anchor, is always a block of its own.

* `RenderState` says what a render has made of a block so far.
* `Cell` is a block with its state.
* `Renderer` is what turns units into values and values into a document.
-/

namespace QuestScript

/-- what a render has made of a block -/
inductive RenderState (V : Type) where
  | unset
  /-- the block went into a unit -/
  | seen
  /-- the block heads a unit, and this is the value of the unit -/
  | value (v : V)
deriving DecidableEq, Repr

/-- the value, if there is one -/
def RenderState.value? {V : Type} : RenderState V → Option V
  | .value v => some v
  | _ => none

/-- a block and its state -/
structure Cell (V : Type) where
  block : Block
  state : RenderState V
deriving DecidableEq, Repr

/-- a block that no render has met -/
def Cell.fresh {V : Type} (b : Block) : Cell V := ⟨b, .unset⟩

/-- one member of a unit -/
inductive Member (V : Type) where
  /-- a block of the group itself -/
  | own (id : Nat) (block : Block)
  /-- the value of a deeper group; `id` and `block` are the anchor it is kept on -/
  | folded (id : Nat) {block : Block} (value : V)
deriving DecidableEq, Repr

namespace Member

variable {V : Type}

def id : Member V → Nat
  | .own i _ => i
  | .folded i _ => i

def isFolded : Member V → Bool
  | .own _ _ => false
  | .folded _ _ => true

/-- the value, if the member is one -/
def value? : Member V → Option V
  | .own _ _ => none
  | .folded _ v => some v

end Member

/-- the members of a unit, the anchor apart -/
structure RenderUnit (V : Type) where
  anchorId : Nat
  anchor : Block
  rest : List (Member V)
deriving DecidableEq, Repr

namespace RenderUnit

variable {V : Type}

/-- all members in order -/
def members (u : RenderUnit V) : List (Member V) := .own u.anchorId u.anchor :: u.rest

/-- the ids of the members in order -/
def ids (u : RenderUnit V) : List Nat := u.members.map Member.id

end RenderUnit

/-- turns units into values of type `V` and the values of the top level into a document -/
structure Renderer (V D : Type) where
  /-- the value of a unit, and what went wrong making it -/
  unit : LineKind → RenderUnit V → V × List Diagnostic
  /-- the document of the values at the least depth; there may be none -/
  document : List V → D × List Diagnostic
  /-- what the first block of a script says about the quest, ordered by key -/
  metadata : Option Block → List (Text × Text)

end QuestScript
