import QuestScript.Compilation
import QuestScript.Proofs.Group.Cut
import Mathlib.Data.List.TakeWhile

/-!
# Groups by nesting

The groups of a list of blocks as trees, read from the top down.  At one depth every block stands
with the run of deeper blocks that follows it; a group begins at every header block and after every
isolated block, and the groups in the runs of its blocks lie within it.

* `stems`           the blocks of one depth, each with its run;
* `nests`           the groups at the depth of the first block, with their values; those in the runs
                    are made by the same recursion;
* `Nest.allList`    all groups at any depth, each before the groups within it;
* `Block.Regular`   no block is deeper than the next depth after that of the block before it.
-/

namespace QuestScript

variable {V D : Type}

/-! ## stems -/

/-- a block with the run of deeper blocks that follows it -/
structure Stem where
  id : Nat
  block : Block
  run : List (Block × Nat)

def Stem.parts (s : Stem) : List (Block × Nat) := (s.block, s.id) :: s.run

/-- no group begins between two neighbours -/
def Stem.joins (s s' : Stem) : Bool := !s'.block.isHeader && !s.block.isIsolated

/-- the blocks of depth `d`, each with its run -/
def stems (d : Nat) : List (Block × Nat) → List Stem
  | [] => []
  | (b, id) :: rest =>
    if b.indent = d then ⟨id, b, rest.takeWhile (d < ·.1.indent)⟩ :: stems d rest
    else stems d rest

theorem stems_cons_of_eq {d : Nat} {x : Block × Nat} (h : x.1.indent = d)
    (rest : List (Block × Nat)) :
    stems d (x :: rest) = ⟨x.2, x.1, rest.takeWhile (d < ·.1.indent)⟩ :: stems d rest := if_pos h

theorem stems_cons_of_ne {d : Nat} {x : Block × Nat} (h : x.1.indent ≠ d)
    (rest : List (Block × Nat)) : stems d (x :: rest) = stems d rest := if_neg h

theorem length_run_lt {d : Nat} {bs : List (Block × Nat)} {s : Stem} (h : s ∈ stems d bs) :
    s.run.length < bs.length := by
  induction bs with
  | nil => cases h
  | cons x rest ih =>
    rw [List.length_cons]
    by_cases hx : x.1.indent = d
    · rw [stems_cons_of_eq hx, List.mem_cons] at h
      rcases h with rfl | h
      · exact Nat.lt_succ_of_le (List.takeWhile_sublist _).length_le
      · exact Nat.lt_succ_of_lt (ih h)
    · rw [stems_cons_of_ne hx] at h
      exact Nat.lt_succ_of_lt (ih h)

theorem indent_of_mem_stems {d : Nat} {bs : List (Block × Nat)} {s : Stem} (h : s ∈ stems d bs) :
    s.block.indent = d ∧ ∀ x ∈ s.run, d < x.1.indent := by
  induction bs with
  | nil => cases h
  | cons x rest ih =>
    by_cases hx : x.1.indent = d
    · rw [stems_cons_of_eq hx, List.mem_cons] at h
      rcases h with rfl | h
      · exact ⟨hx, fun y hy => by simpa using List.mem_takeWhile_imp hy⟩
      · exact ih h
    · rw [stems_cons_of_ne hx] at h
      exact ih h

/-- where no block is shallower than `d`, the stems of `d` and their runs are all the blocks but
those before the first stem -/
theorem takeWhile_append_stems {d : Nat} {bs : List (Block × Nat)}
    (h : ∀ x ∈ bs, d ≤ x.1.indent) :
    bs.takeWhile (d < ·.1.indent) ++ (stems d bs).flatMap Stem.parts = bs := by
  induction bs with
  | nil => rfl
  | cons x rest ih =>
    obtain ⟨hx, hrest⟩ := List.forall_mem_cons.mp h
    by_cases hd : x.1.indent = d
    · rw [stems_cons_of_eq hd, List.takeWhile_cons_of_neg (by simp [hd]), List.flatMap_cons]
      show x :: (rest.takeWhile _ ++ (stems d rest).flatMap Stem.parts) = _
      rw [ih hrest]
    · have hlt : d < x.1.indent := by omega
      rw [stems_cons_of_ne hd, List.takeWhile_cons_of_pos (by simpa using hlt), List.cons_append,
        ih hrest]

theorem map_stems (d : Nat) (bs : List (Block × Nat)) :
    (stems d bs).map (fun s => (s.block, s.id)) = bs.filter (·.1.indent = d) := by
  induction bs with
  | nil => rfl
  | cons x rest ih =>
    by_cases hx : x.1.indent = d
    · rw [stems_cons_of_eq hx, List.map_cons, ih, List.filter_cons_of_pos (by simpa using hx)]
    · rw [stems_cons_of_ne hx, ih, List.filter_cons_of_neg (by simpa using hx)]

/-! ## nests -/

/-- a group with its value, and the groups in the runs of its blocks -/
inductive Nest (V : Type) where
  | node (anchor : Nat) (block : Block) (value : V) (inner : List (Nest V))

namespace Nest

def anchor : Nest V → Nat
  | node id _ _ _ => id

def value : Nest V → V
  | node _ _ v _ => v

/-- the value of a group, as a member of a unit -/
def member : Nest V → Member V
  | node id b v _ => @Member.folded V id b v

mutual

/-- the anchors and values of a group and of all groups within it -/
def all : Nest V → List (Nat × V)
  | node id _ v inner => (id, v) :: allList inner

def allList : List (Nest V) → List (Nat × V)
  | [] => []
  | n :: ns => n.all ++ allList ns

end

theorem allList_append (ns ms : List (Nest V)) : allList (ns ++ ms) = allList ns ++ allList ms := by
  induction ns with
  | nil => rw [List.nil_append, allList, List.nil_append]
  | cons n ns ih => rw [List.cons_append, allList, allList, ih, List.append_assoc]

/-- the members of a unit that a stem brings in: its block, and the values in its run -/
def membersOf (x : Stem × List (Nest V)) : List (Member V) :=
  .own x.1.id x.1.block :: x.2.map member

def ofGroup? (r : Renderer V D) : List (Stem × List (Nest V)) → Option (Nest V)
  | [] => none
  | (s, inner) :: more =>
    let rest := inner.map member ++ more.flatMap membersOf
    let u : RenderUnit V := ⟨s.id, s.block, if s.block.kind = .root then [] else rest⟩
    some (node s.id s.block (r.unit s.block.kind u).1 (inner ++ more.flatMap Prod.snd))

end Nest

/-- the groups at the depth of the first block -/
def nests (r : Renderer V D) : List (Block × Nat) → List (Nest V)
  | [] => []
  | x :: rest =>
    (((stems x.1.indent (x :: rest)).attach.map fun s => (s.1, nests r s.1.run)).splitBy
      fun y z => y.1.joins z.1).filterMap (Nest.ofGroup? r)
termination_by bs => bs.length
decreasing_by exact length_run_lt s.2

theorem nests_nil (r : Renderer V D) : nests r [] = [] := by rw [nests]

/-- the group of a list of stems -/
def nestOf? (r : Renderer V D) (p : List Stem) : Option (Nest V) :=
  Nest.ofGroup? r (p.map fun s => (s, nests r s.run))

theorem nests_eq (r : Renderer V D) {bs : List (Block × Nat)} {x : Block × Nat}
    (h : bs.head? = some x) :
    nests r bs = ((stems x.1.indent bs).splitBy Stem.joins).filterMap (nestOf? r) := by
  obtain ⟨rest, rfl⟩ := List.head?_eq_some_iff.mp h
  have hmap : ((stems x.1.indent (x :: rest)).attach.map fun s => (s.1, nests r s.1.run)) =
      (stems x.1.indent (x :: rest)).map fun s => (s, nests r s.run) :=
    List.attach_map_val (f := fun s : Stem => (s, nests r s.run))
  have hsplit : ((stems x.1.indent (x :: rest)).map fun s => (s, nests r s.run)).splitBy
      (fun y z => y.1.joins z.1) = ((stems x.1.indent (x :: rest)).splitBy Stem.joins).map
        (List.map fun s => (s, nests r s.run)) := splitBy_map _ fun _ _ _ _ => rfl
  rw [nests, hmap, hsplit, List.filterMap_map]
  rfl

/-! ## regular lists -/

/-- the first block has the least depth, and no block is deeper than the next depth after that of
the block before it -/
structure Block.Regular (blocks : List Block) : Prop where
  first : ∀ h ∈ blocks.head?, ∀ b ∈ blocks, h.indent ≤ b.indent
  step : blocks.IsChain fun b b' => ∀ z ∈ blocks, b.indent < z.indent → b'.indent ≤ z.indent

end QuestScript
