import QuestScript.Proofs.Group.Owner
import QuestScript.Proofs.Render.Span

/-!
# One list of blocks after the other

If the second list starts with a header block at depth 0, the groups of both lists together are those
of the first list and those of the second one, with their ids moved on by the length of the first;
and the segments of all groups span the same blocks as before.

* `Block.groupsAt`         the groups of one depth;
* `Block.groupsAt_append`  the groups of two lists;
* `Group.extent_append`, `Group.extent_append_right`  how far their segments go on;
* `Block.Embeds`           a list of blocks stands in another one, with its groups and their spans;
* `Block.embeds_left`, `Block.embeds_right`  both lists stand in the list of both.
-/

namespace QuestScript

namespace Block

/-- the groups of depth `d` -/
def groupsAt (blocks : List Block) (d : Nat) : List Group :=
  (idsAt blocks d).splitBy (joins blocks d)

theorem mem_of_mem_groupsAt {blocks : List Block} {d : Nat} {g : Group} (hg : g ∈ groupsAt blocks d)
    {id : Nat} (hid : id ∈ g) : id ∈ idsAt blocks d := mem_of_mem_splitBy hg hid

theorem exists_level {blocks : List Block} {table : GroupTable}
    (h : table.Over blocks (Level.Cut blocks)) {d : Nat} {g : Group} (hg : g ∈ groupsAt blocks d) :
    ∃ l ∈ table, l.depth = d ∧ g ∈ l.nonEmpty := by
  obtain ⟨id, hid⟩ := List.exists_mem_of_ne_nil _ (List.ne_nil_of_mem_splitBy hg)
  obtain ⟨b, hb, hd⟩ := mem_idsAt.mp (mem_of_mem_groupsAt hg hid)
  obtain ⟨l, hl, hdepth⟩ := List.mem_map.mp (h.mem_depths hb)
  obtain rfl : l.depth = d := hdepth.trans hd
  refine ⟨l, hl, rfl, ?_⟩
  rw [(h.levels l hl).groups]
  exact hg

theorem covers_of_mem_groupsAt {blocks : List Block} {d : Nat} {g : Group}
    (hg : g ∈ groupsAt blocks d) : ∃ start stop, Group.Covers blocks d g start stop := by
  have h := GroupTable.cut_build blocks
  obtain ⟨l, hl, rfl, hgroup⟩ := exists_level h hg
  exact (h.levels l hl).covers hgroup

theorem exists_mem_groupsAt {blocks : List Block} {id : Nat} {b : Block}
    (hb : blocks[id]? = some b) : ∃ g ∈ groupsAt blocks b.indent, id ∈ g := by
  have hid : id ∈ (groupsAt blocks b.indent).flatten := by
    rw [groupsAt, List.flatten_splitBy]
    exact mem_idsAt.mpr ⟨b, hb, rfl⟩
  exact List.mem_flatten.mp hid

section
variable (as bs : List Block) (d : Nat)

theorem getElem?_append_add (i : Nat) : (as ++ bs)[as.length + i]? = bs[i]? := by
  rw [List.getElem?_append_right (Nat.le_add_right _ _), Nat.add_sub_cancel_left]

/-! ## the groups -/

theorem idsAt_append : idsAt (as ++ bs) d = idsAt as d ++ (idsAt bs d).map (as.length + ·) := by
  unfold idsAt
  rw [List.zipIdx_append, List.filter_append, List.map_append, Nat.zero_add,
    List.zipIdx_eq_map_add (l := bs), List.filter_map, List.map_map, List.map_map]
  rfl

theorem joins_append_right (i j : Nat) :
    joins (as ++ bs) d (as.length + i) (as.length + j) = joins bs d i j := by
  unfold joins
  rw [getElem?_append_add, getElem?_append_add, List.take_length_add_append, Nat.add_assoc,
    List.drop_length_add_append]

variable {as bs d} (hhead : ∀ b ∈ bs.head?, b.indent = 0 ∧ b.isHeader = true)
include hhead

/-- no group goes on from the first list to the second -/
theorem joins_seam {x y : Nat} (hx : x ∈ idsAt as d) (hy : (idsAt bs d).head? = some y) :
    joins (as ++ bs) d x (as.length + y) = false := by
  refine Bool.eq_false_iff.mpr fun hjoins => ?_
  have hfirst : ∃ first, bs[0]? = some first := by
    have hlt := lt_of_mem_idsAt (List.mem_of_head? hy)
    exact ⟨_, List.getElem?_eq_getElem (Nat.zero_lt_of_lt hlt)⟩
  obtain ⟨first, hfirst⟩ := hfirst
  obtain ⟨hindent, hheader⟩ := hhead first (List.head?_eq_getElem?.trans hfirst)
  have hat : (as ++ bs)[as.length + 0]? = some first := (getElem?_append_add as bs 0).trans hfirst
  rcases Nat.eq_zero_or_pos y with rfl | hpos
  · have hno := (joins_iff.mp hjoins).1
    rw [hat, Option.any_some, hheader] at hno
    cases hno
  · -- the first block of the second list stands between, so `d` is 0, and `y` is not the first one
    have hd : d ≤ first.indent :=
      deep_of_joins hjoins hat (by have := lt_of_mem_idsAt hx; omega) (by omega)
    have hzero : 0 ∈ idsAt bs d := mem_idsAt.mpr ⟨first, hfirst, by omega⟩
    have := le_head_of_pairwise (pairwise_idsAt bs d) hy hzero
    omega

/-- **the groups of two lists** -/
theorem groupsAt_append : groupsAt (as ++ bs) d =
    groupsAt as d ++ (groupsAt bs d).map (List.map (as.length + ·)) := by
  have hseam : ∀ x ∈ (idsAt as d).getLast?, ∀ y ∈ ((idsAt bs d).map (as.length + ·)).head?,
      joins (as ++ bs) d x y = false := by
    intro x hx y hy
    rw [List.head?_map] at hy
    obtain ⟨z, hz, rfl⟩ := Option.map_eq_some_iff.mp hy
    exact joins_seam hhead (List.mem_of_getLast? hx) hz
  unfold groupsAt
  rw [idsAt_append, List.splitBy_append hseam, splitBy_joins_append]
  congr 1
  exact splitBy_map _ fun i _ j _ => joins_append_right as bs d i j

end

end Block

/-! ## the segments -/

namespace Group

variable {as bs : List Block} {d : Nat}

theorem extent_eq_zero {blocks : List Block} {next : Option Nat} {stop : Nat}
    (h : ∀ b ∈ (blocks.drop (stop + 1)).head?, next ≠ some b.indent) :
    extent blocks next d stop = 0 := by
  refine if_neg fun hnext => ?_
  obtain ⟨hsome, heq⟩ := Bool.and_eq_true_iff.mp hnext
  obtain ⟨n, rfl⟩ := Option.isSome_iff_exists.mp hsome
  obtain ⟨b, hb, hd⟩ := Option.map_eq_some_iff.mp (beq_iff_eq.mp heq)
  exact h b hb (congrArg some hd.symm)

/-- where a block at depth 0 follows, no segment of the first list goes on -/
theorem extent_append (hhead : ∀ b ∈ bs.head?, b.indent = 0) {stop : Nat}
    (hstop : stop < as.length) :
    extent (as ++ bs) (some (d + 1)) d stop = extent as (some (d + 1)) d stop := by
  have hdrop : (as ++ bs).drop (stop + 1) = as.drop (stop + 1) ++ bs :=
    List.drop_append_of_le_length hstop
  cases hafter : as.drop (stop + 1) with
  | nil =>
    rw [extent_eq_zero, extent_eq_zero]
    · rw [hafter]
      exact fun b hb => nomatch hb
    · rw [hdrop, hafter, List.nil_append]
      intro b hb heq
      rw [hhead b hb] at heq
      cases heq
  | cons a after =>
    have hstops : bs.takeWhile (fun b => decide (d < b.indent)) = [] := by
      cases bs with
      | nil => rfl
      | cons b bs => exact List.takeWhile_cons_of_neg (by simp [hhead b rfl])
    have htake : (a :: after ++ bs).takeWhile (fun b => decide (d < b.indent)) =
        (a :: after).takeWhile fun b => decide (d < b.indent) := by
      rw [List.takeWhile_append, hstops, List.append_nil]
      split
      · next hall => exact ((List.takeWhile_prefix _).eq_of_length hall).symm
      · rfl
    unfold extent
    dsimp only
    rw [hdrop, hafter, htake]
    rfl

theorem extent_append_right (next : Option Nat) (stop : Nat) :
    extent (as ++ bs) next d (as.length + stop) = extent bs next d stop := by
  unfold extent
  rw [Nat.add_assoc, List.drop_length_add_append]

theorem span_append (hhead : ∀ b ∈ bs.head?, b.indent = 0) {g : Group}
    (hg : g ∈ Block.groupsAt as d) :
    span (as ++ bs) (some (d + 1)) d g = span as (some (d + 1)) d g := by
  obtain ⟨start, stop, hcov⟩ := Block.covers_of_mem_groupsAt hg
  have hstop : stop < as.length :=
    Block.lt_of_mem_idsAt (Block.mem_of_mem_groupsAt hg hcov.stop_mem)
  unfold span
  rw [hcov.head, hcov.last]
  dsimp only
  rw [extent_append hhead hstop]

theorem span_append_right (next : Option Nat) (g : Group) :
    span (as ++ bs) next d (g.map (as.length + ·)) = (span bs next d g).map (as.length + ·) := by
  unfold span
  rw [List.head?_map, List.getLast?_map]
  cases g.head? with
  | none => rfl
  | some start =>
    cases g.getLast? with
    | none => rfl
    | some stop =>
      dsimp only [Option.map_some]
      rw [extent_append_right, List.map_add_range']
      congr 1
      omega

end Group

/-! ## both lists in one -/

namespace Block

/-- the blocks of `part` stand in `blocks` under the ids of `φ`, with their groups, and the segments
of the groups span the same blocks -/
structure Embeds (φ : Nat → Nat) (part blocks : List Block) : Prop where
  injective : Function.Injective φ
  getElem?_eq : ∀ i < part.length, blocks[φ i]? = part[i]?
  group_mem : ∀ d, ∀ g ∈ groupsAt part d, g.map φ ∈ groupsAt blocks d
  span_eq : ∀ d, ∀ g ∈ groupsAt part d, Group.span blocks (some (d + 1)) d (g.map φ) =
    (Group.span part (some (d + 1)) d g).map φ

variable {as bs : List Block} (hhead : ∀ b ∈ bs.head?, b.indent = 0 ∧ b.isHeader = true)
include hhead

theorem embeds_left : Embeds id as (as ++ bs) where
  injective := Function.injective_id
  getElem?_eq _ hi := List.getElem?_append_left hi
  group_mem d g hg := by
    rw [List.map_id, groupsAt_append hhead]
    exact List.mem_append_left _ hg
  span_eq d g hg := by
    rw [List.map_id, List.map_id]
    exact Group.span_append (fun b hb => (hhead b hb).1) hg

theorem embeds_right : Embeds (as.length + ·) bs (as ++ bs) where
  injective := fun _ _ => Nat.add_left_cancel
  getElem?_eq i _ := getElem?_append_add as bs i
  group_mem d g hg := by
    rw [groupsAt_append hhead]
    exact List.mem_append_right _ (List.mem_map_of_mem hg)
  span_eq d g _ := Group.span_append_right (some (d + 1)) g

end Block

end QuestScript
