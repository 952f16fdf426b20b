import QuestScript.Block.Basic

/-!
# Groups of blocks

Blocks of one depth that belong together form a group.  One pass over the blocks builds a table of
levels, one for each depth that occurs, in ascending order.

* A header block opens a new group.
* A trigger or a quest header closes its group, unless it is the last block of all.
* A block closes the groups of all deeper levels.

The group that a level is still adding to may be empty; the groups closed before it never are.
`GroupTable.owners` maps every block to the first block of its group.
-/

namespace QuestScript

/-- the blocks of a group, by their ids -/
abbrev Group := List Nat

/-- the groups of one depth -/
structure Level where
  depth : Nat
  /-- groups that are complete; none of them is empty -/
  closed : List Group
  /-- the group that is being added to -/
  current : Group
deriving DecidableEq, Repr

namespace Level

/-- all groups of the level, the empty one at the end included -/
def groups (l : Level) : List Group := l.closed ++ [l.current]

/-- the groups that hold a block -/
def nonEmpty (l : Level) : List Group := l.groups.filter (!·.isEmpty)

/-- the first blocks of the groups -/
def anchors (l : Level) : List Nat := l.nonEmpty.filterMap List.head?

/-- ends the current group, if it holds a block -/
def close (l : Level) : Level :=
  if l.current.isEmpty then l else ⟨l.depth, l.closed ++ [l.current], []⟩

/-- adds a block that has the depth of the level; `last` says that no block follows -/
def add (l : Level) (id : Nat) (b : Block) (last : Bool) : Level :=
  let l := if b.isHeader then l.close else l
  let l : Level := ⟨l.depth, l.closed, l.current ++ [id]⟩
  if b.isIsolated && !last then l.close else l

end Level

/-- the levels of a list of blocks, depths ascending -/
abbrev GroupTable := List Level

namespace GroupTable

/-- adds a block to its level, which is made if it is new, and closes the groups below -/
def add (id : Nat) (b : Block) (last : Bool) : GroupTable → GroupTable
  | [] => [Level.add ⟨b.indent, [], []⟩ id b last]
  | l :: ls =>
    if l.depth < b.indent then l :: add id b last ls
    else if l.depth = b.indent then l.add id b last :: ls.map Level.close
    else Level.add ⟨b.indent, [], []⟩ id b last :: (l :: ls).map Level.close

/-- the table after the blocks that are numbered from `id` on -/
def addAll (table : GroupTable) (id : Nat) : List Block → GroupTable
  | [] => table
  | b :: bs => addAll (add id b bs.isEmpty table) (id + 1) bs

/-- the groups of a list of blocks -/
def build (blocks : List Block) : GroupTable := addAll [] 0 blocks

/-- the depths that occur, ascending -/
def depths (table : GroupTable) : List Nat := table.map Level.depth

/-- the least depth -/
def minDepth? (table : GroupTable) : Option Nat := table.head?.map Level.depth

/-- the first blocks of all groups -/
def anchors (table : GroupTable) : List Nat := table.flatMap Level.anchors

/-- the first blocks of the groups at the least depth -/
def roots (table : GroupTable) : List Nat :=
  match table with
  | [] => []
  | l :: _ => l.anchors

/-- the first block of the group of `id`; a block that is in no group is its own -/
def owner (table : GroupTable) (id : Nat) : Nat :=
  (((table.flatMap Level.groups).find? (id ∈ ·)).bind List.head?).getD id

/-- the owners of the first `n` ids -/
def owners (table : GroupTable) (n : Nat) : List Nat := (List.range n).map table.owner

end GroupTable

end QuestScript
