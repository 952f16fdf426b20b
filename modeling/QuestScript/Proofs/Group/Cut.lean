import QuestScript.Group
import QuestScript.Proofs.Pieces

/-!
# The groups of a level

The table of a list of blocks is built block by block.  This module says what it comes to:

* `Block.idsAt`            the ids of the blocks of one depth;
* `Block.joins`            when the second of two neighbours at one depth goes on with the group of
                           the first: it is no header, the first is not isolated, and no block of a
                           lesser depth stands between them;
* `Level.Cut`              the groups of a level are the ids of its depth, cut where two neighbours
                           do not join;
* `Level.Fits`             besides, the level is open as long as a block could join its last one;
* `Level.Done`             what comes of it with the last block of all, which closes no group of its
                           own depth.

`Level.Fits.meet` is the step: what a block does to a level keeps `Fits`.  `Level.Fits.done_meet` is
the last step.
-/

namespace QuestScript

namespace Block

/-- the ids of the blocks of depth `d`, ascending -/
def idsAt (blocks : List Block) (d : Nat) : List Nat :=
  (blocks.zipIdx.filter (·.1.indent = d)).map Prod.snd

/-- of two neighbours at depth `d`, the second goes on with the group of the first -/
def joins (blocks : List Block) (d i j : Nat) : Bool :=
  !blocks[j]?.any isHeader && !blocks[i]?.any isIsolated &&
    ((blocks.take j).drop (i + 1)).all (d ≤ ·.indent)

theorem mem_idsAt {blocks : List Block} {d id : Nat} :
    id ∈ idsAt blocks d ↔ ∃ b, blocks[id]? = some b ∧ b.indent = d := by
  simp [idsAt, List.mk_mem_zipIdx_iff_getElem?]

theorem lt_of_mem_idsAt {blocks : List Block} {d id : Nat} (h : id ∈ idsAt blocks d) :
    id < blocks.length := by
  obtain ⟨b, hb, _⟩ := mem_idsAt.mp h
  exact (List.getElem?_eq_some_iff.mp hb).1

theorem idsAt_concat (pre : List Block) (b : Block) (d : Nat) :
    idsAt (pre ++ [b]) d = idsAt pre d ++ if b.indent = d then [pre.length] else [] := by
  unfold idsAt
  rw [List.zipIdx_append, List.filter_append, List.map_append]
  by_cases h : b.indent = d <;> simp [h]

theorem pairwise_idsAt (blocks : List Block) (d : Nat) :
    (idsAt blocks d).Pairwise (· < ·) :=
  List.pairwise_map.mpr ((pairwise_zipIdx blocks).sublist List.filter_sublist)

theorem idsAt_eq_nil {blocks : List Block} {d : Nat} (h : ∀ b ∈ blocks, b.indent ≠ d) :
    idsAt blocks d = [] := by
  rw [List.eq_nil_iff_forall_not_mem]
  intro id hid
  obtain ⟨b, hb, hd⟩ := mem_idsAt.mp hid
  exact h b (List.mem_of_getElem? hb) hd

theorem joins_append (pre post : List Block) (d : Nat) {i j : Nat} (hi : i < pre.length)
    (hj : j < pre.length) : joins (pre ++ post) d i j = joins pre d i j := by
  unfold joins
  rw [List.getElem?_append_left hi, List.getElem?_append_left hj,
    List.take_append_of_le_length hj.le]

theorem joins_length (pre : List Block) (b : Block) (d : Nat) {i : Nat} (hi : i < pre.length) :
    joins (pre ++ [b]) d i pre.length =
      (!b.isHeader && !pre[i]?.any isIsolated && (pre.drop (i + 1)).all (d ≤ ·.indent)) := by
  unfold joins
  rw [List.getElem?_append_left hi, List.getElem?_concat_length, List.take_left, Option.any_some]

/-- the groups that are there stay as they are when blocks are added -/
theorem splitBy_joins_append (pre post : List Block) (d : Nat) :
    (idsAt pre d).splitBy (joins (pre ++ post) d) = (idsAt pre d).splitBy (joins pre d) := by
  have h := splitBy_map (R := joins (pre ++ post) d) (S := joins pre d) id (l := idsAt pre d)
    fun i hi j hj => joins_append pre post d (lt_of_mem_idsAt hi) (lt_of_mem_idsAt hj)
  simpa using h

end Block

/-! ## one level -/

namespace Level

open Block (idsAt joins)

theorem nonEmpty_eq {l : Level} (h : [] ∉ l.closed) :
    l.nonEmpty = l.closed ++ if l.current = [] then [] else [l.current] := by
  unfold nonEmpty groups
  rw [List.filter_append]
  congr 1
  · rw [List.filter_eq_self]
    intro g hg
    cases g with
    | nil => exact absurd hg h
    | cons i g => rfl
  · cases l.current <;> rfl

/-- the level holds the blocks of its depth, cut into groups -/
structure Cut (blocks : List Block) (l : Level) : Prop where
  closed_ne : [] ∉ l.closed
  groups : l.nonEmpty = (idsAt blocks l.depth).splitBy (joins blocks l.depth)

/-- besides, the level is open as long as a block could join its last one -/
structure Fits (blocks : List Block) (l : Level) : Prop extends Cut blocks l where
  open_iff : ∀ x ∈ (idsAt blocks l.depth).getLast?,
    l.current ≠ [] ↔ blocks[x]?.any Block.isIsolated = false ∧
      (blocks.drop (x + 1)).all (l.depth ≤ ·.indent) = true

/-- besides, the level has an empty group just if its last block is isolated and not the last of all,
or a block of a lesser depth follows it -/
structure Done (blocks : List Block) (l : Level) : Prop extends Cut blocks l where
  current_eq_nil : ∀ x ∈ (idsAt blocks l.depth).getLast?,
    l.current = [] ↔ blocks[x]?.any Block.isIsolated = true ∧ x + 1 ≠ blocks.length ∨
      ∃ b ∈ blocks.drop (x + 1), b.indent < l.depth

/-! ### closing a level -/

theorem close_depth (l : Level) : l.close.depth = l.depth := by
  unfold close
  split <;> rfl

theorem close_current (l : Level) : l.close.current = [] := by
  unfold close
  split
  · next h => exact List.isEmpty_iff.mp h
  · rfl

theorem close_closed_ne {l : Level} (h : [] ∉ l.closed) : [] ∉ l.close.closed := by
  unfold close
  split
  · exact h
  · next hc => simpa [h] using hc

theorem close_nonEmpty (l : Level) : l.close.nonEmpty = l.nonEmpty := by
  unfold close
  split
  · rfl
  · simp [nonEmpty, groups, List.filter_cons]

/-! ### adding a block -/

theorem add_depth (l : Level) (id : Nat) (b : Block) (last : Bool) :
    (l.add id b last).depth = l.depth := by
  unfold add
  cases b.isHeader <;> cases b.isIsolated && !last <;> simp [close_depth]

theorem add_current (l : Level) (id : Nat) (b : Block) (last : Bool) :
    (l.add id b last).current ≠ [] ↔ (b.isIsolated && !last) = false := by
  unfold add
  cases h : b.isIsolated && !last <;> simp [close_current]

theorem add_closed_ne {l : Level} (h : [] ∉ l.closed) (id : Nat) (b : Block) (last : Bool) :
    [] ∉ (l.add id b last).closed := by
  unfold add
  have hc : [] ∉ (if b.isHeader then l.close else l).closed := by
    split
    · exact close_closed_ne h
    · exact h
  cases b.isIsolated && !last with
  | false => exact hc
  | true => exact close_closed_ne hc

/-- a block starts a group of its own or goes to the end of the current one -/
theorem add_nonEmpty {l : Level} (h : [] ∉ l.closed) (id : Nat) (b : Block) (last : Bool) :
    (l.add id b last).nonEmpty =
      if b.isHeader ∨ l.current = [] then l.nonEmpty ++ [[id]]
      else l.closed ++ [l.current ++ [id]] := by
  have hclose : ∀ m : Level, (if b.isIsolated && !last then m.close else m).nonEmpty
      = m.nonEmpty := by
    intro m
    split
    · exact close_nonEmpty m
    · rfl
  unfold add
  rw [hclose]
  by_cases hb : b.isHeader = true
  · have hc := close_closed_ne h
    rw [if_pos hb, if_pos (Or.inl hb), ← close_nonEmpty l, nonEmpty_eq hc, close_current,
      nonEmpty_eq (l := ⟨_, l.close.closed, [] ++ [id]⟩) hc]
    simp
  · rw [if_neg hb, nonEmpty_eq (l := ⟨_, l.closed, l.current ++ [id]⟩) h]
    by_cases hcur : l.current = []
    · rw [if_pos (Or.inr hcur), nonEmpty_eq h, hcur]
      simp
    · simp [hb, hcur]

/-! ### what a block does to a level -/

/-- what the block `id` does to a level: it closes the deeper ones -/
def meet (l : Level) (id : Nat) (b : Block) (last : Bool) : Level :=
  if l.depth < b.indent then l else if l.depth = b.indent then l.add id b last else l.close

section
variable {pre : List Block} {l : Level} {b : Block}

theorem fits_empty {d : Nat} (h : ∀ b ∈ pre, b.indent ≠ d) : Fits pre ⟨d, [], []⟩ where
  closed_ne := List.not_mem_nil
  groups := by
    show _ = (idsAt pre d).splitBy _
    rw [Block.idsAt_eq_nil h]
    rfl
  open_iff := by
    intro x hx
    rw [Block.idsAt_eq_nil h] at hx
    cases hx

theorem Cut.other (h : Cut pre l) (hb : b.indent ≠ l.depth) :
    l.nonEmpty = (idsAt (pre ++ [b]) l.depth).splitBy (joins (pre ++ [b]) l.depth) := by
  rw [Block.idsAt_concat, if_neg hb, List.append_nil, Block.splitBy_joins_append]
  exact h.groups

theorem Fits.skip (h : Fits pre l) (hb : l.depth < b.indent) : Fits (pre ++ [b]) l where
  closed_ne := h.closed_ne
  groups := h.toCut.other hb.ne'
  open_iff := by
    intro x hx
    rw [Block.idsAt_concat, if_neg hb.ne', List.append_nil] at hx
    have hlt := Block.lt_of_mem_idsAt (List.mem_of_getLast? hx)
    rw [h.open_iff x hx, List.getElem?_append_left hlt, List.drop_append_of_le_length hlt]
    simp [hb.le]

theorem Fits.close (h : Fits pre l) (hb : b.indent < l.depth) : Fits (pre ++ [b]) l.close where
  closed_ne := close_closed_ne h.closed_ne
  groups := by
    rw [close_nonEmpty, close_depth]
    exact h.toCut.other hb.ne
  open_iff := by
    intro x hx
    rw [close_depth, Block.idsAt_concat, if_neg hb.ne, List.append_nil] at hx
    have hlt := Block.lt_of_mem_idsAt (List.mem_of_getLast? hx)
    rw [close_current, close_depth, List.drop_append_of_le_length hlt]
    simp [hb]

/-- a block of the level joins the last one just if it is no header and the level is open -/
theorem Fits.joins_last (h : Fits pre l) {x : Nat} (hx : x ∈ (idsAt pre l.depth).getLast?) :
    joins (pre ++ [b]) l.depth x pre.length = true ↔ ¬(b.isHeader ∨ l.current = []) := by
  rw [Block.joins_length pre b _ (Block.lt_of_mem_idsAt (List.mem_of_getLast? hx))]
  have := h.open_iff x hx
  simp only [Bool.and_eq_true, Bool.not_eq_true', not_or, Bool.not_eq_true, this, and_assoc]

theorem Fits.cut_add (h : Fits pre l) (hb : b.indent = l.depth) (last : Bool) :
    Cut (pre ++ [b]) (l.add pre.length b last) where
  closed_ne := add_closed_ne h.closed_ne _ _ _
  groups := by
    rw [add_depth, Block.idsAt_concat, if_pos hb, add_nonEmpty h.closed_ne]
    by_cases hs : b.isHeader ∨ l.current = []
    · rw [if_pos hs, List.splitBy_append_cons, Block.splitBy_joins_append, h.groups]
      · rfl
      · intro x hx
        rw [Bool.eq_false_iff]
        exact fun e => (h.joins_last hx).mp e hs
    · have hg : (idsAt pre l.depth).splitBy (joins (pre ++ [b]) l.depth)
          = l.closed ++ [l.current] := by
        rw [Block.splitBy_joins_append, ← h.groups, nonEmpty_eq h.closed_ne,
          if_neg fun e => hs (Or.inr e)]
      rw [if_neg hs, splitBy_concat hg fun x hx => (h.joins_last hx).mpr hs]

theorem Fits.add (h : Fits pre l) (hb : b.indent = l.depth) :
    Fits (pre ++ [b]) (l.add pre.length b false) where
  toCut := h.cut_add hb false
  open_iff := by
    intro x hx
    rw [add_depth, Block.idsAt_concat, if_pos hb] at hx
    obtain rfl : pre.length = x := by simpa using hx
    rw [add_current, List.getElem?_concat_length, List.drop_of_length_le (by simp)]
    simp

theorem Fits.meet (h : Fits pre l) : Fits (pre ++ [b]) (l.meet pre.length b false) := by
  unfold Level.meet
  split
  · next hb => exact h.skip hb
  · split
    · next hb => exact h.add hb.symm
    · exact h.close (by omega)

theorem Fits.done {blocks : List Block} (h : Fits blocks l)
    (hlast : ∀ x ∈ (idsAt blocks l.depth).getLast?, x + 1 ≠ blocks.length) : Done blocks l where
  toCut := h.toCut
  current_eq_nil := by
    intro x hx
    have hopen := h.open_iff x hx
    rw [← not_iff_not, ← ne_eq, hopen, and_iff_left (hlast x hx), not_or, Bool.not_eq_true]
    simp

theorem Fits.done_add (h : Fits pre l) (hb : b.indent = l.depth) :
    Done (pre ++ [b]) (l.add pre.length b true) where
  toCut := h.cut_add hb true
  current_eq_nil := by
    intro x hx
    rw [add_depth, Block.idsAt_concat, if_pos hb] at hx
    obtain rfl : pre.length = x := by simpa using hx
    refine iff_of_false ((add_current _ _ _ _).mpr (by simp)) ?_
    rw [List.drop_of_length_le (by simp)]
    simp

/-- the last block of all is not at the end of a level that it is not added to -/
theorem Fits.done_of_ne {l' : Level} (h : Fits (pre ++ [b]) l') (hb : b.indent ≠ l'.depth) :
    Done (pre ++ [b]) l' := by
  refine h.done fun x hx => ?_
  rw [Block.idsAt_concat, if_neg hb, List.append_nil] at hx
  have hlt := Block.lt_of_mem_idsAt (List.mem_of_getLast? hx)
  rw [List.length_append, List.length_singleton]
  omega

theorem Fits.done_meet (h : Fits pre l) : Done (pre ++ [b]) (l.meet pre.length b true) := by
  unfold Level.meet
  split
  · next hb => exact (h.skip hb).done_of_ne hb.ne'
  · split
    · next hb => exact h.done_add hb.symm
    · have hb : b.indent < l.depth := by omega
      exact (h.close hb).done_of_ne (by rw [close_depth]; exact hb.ne)

end

end Level

end QuestScript
