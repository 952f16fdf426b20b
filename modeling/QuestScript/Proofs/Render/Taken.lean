import QuestScript.Proofs.Render.Parent
import Mathlib.Data.List.Nodup

/-!
# Every value is taken once or reported once

Below the least depth, the value of a group either goes into the segment of one other group, or the
pass gives one warning about it.

* `Compilation.takers`                  the segments of other groups that take a value in;
* `Compilation.warnings`                the warnings about a value that went nowhere;
* `Fresh.eq_of_mem_folded`              no two segments take the same value;
* `Compilation.mem_unattached`          the values that are reported;
* `Compilation.taken_once_or_reported`  both together.
-/

namespace QuestScript

variable {V D : Type}

/-! ## lists -/

theorem eq_singleton_of_nodup {α : Type} {l : List α} (h : l.Nodup) {a : α}
    (ha : ∀ x, x ∈ l ↔ x = a) : l = [a] := by
  refine List.perm_singleton.mp ((List.perm_ext_iff_of_nodup h (List.nodup_singleton a)).mpr ?_)
  intro x
  rw [ha, List.mem_singleton]

/-! ## the groups of a table -/

/-- the levels after the first one are those that a block lies below -/
theorem GroupTable.Over.mem_tail {blocks : List Block} {P : Level → Prop} {table : GroupTable}
    (h : table.Over blocks P) {l : Level} :
    l ∈ table.tail ↔ l ∈ table ∧ ∃ b ∈ blocks, b.indent < l.depth := by
  cases table with
  | nil => simp
  | cons k ls =>
    show l ∈ ls ↔ _
    constructor
    · intro hl
      refine ⟨List.mem_cons_of_mem _ hl, ?_⟩
      by_contra hnone
      have hle : ∀ b ∈ blocks, l.depth ≤ b.indent := by
        intro b hb
        by_contra hlt
        exact hnone ⟨b, hb, by omega⟩
      have hlt := List.rel_of_pairwise_cons h.sorted hl
      rw [(h.depth_le_iff (List.mem_cons_of_mem _ hl)).mp hle] at hlt
      exact Nat.lt_irrefl _ hlt
    · rintro ⟨hl, b, hb, hlt⟩
      refine (List.mem_cons.mp hl).resolve_left fun e => ?_
      have := (h.depth_le_iff hl).mpr e b hb
      omega

theorem Level.Cut.nodup {blocks : List Block} {l : Level} (h : l.Cut blocks) :
    l.nonEmpty.Nodup := by
  refine h.pairwise.imp_of_mem ?_
  rintro g _ hg _ hlt rfl
  obtain ⟨start, _, hcov⟩ := h.covers hg
  exact Nat.lt_irrefl start (hlt start hcov.start_mem start hcov.start_mem)

theorem GroupTable.Over.nodup_groups {blocks : List Block} {table : GroupTable}
    (h : table.Over blocks (Level.Cut blocks)) :
    (table.reverse.flatMap Level.nonEmpty).Nodup := by
  rw [List.nodup_flatMap]
  refine ⟨fun l hl => (h.levels l (List.mem_reverse.mp hl)).nodup, ?_⟩
  rw [List.pairwise_reverse]
  refine h.sorted.imp_of_mem ?_
  intro l l' hl hl' hlt g hg' hg
  obtain ⟨start, _, hcov⟩ := (h.levels l hl).covers hg
  obtain ⟨rfl, _⟩ := h.group_eq hl hl' hg hg' hcov.start_mem hcov.start_mem
  exact Nat.lt_irrefl _ hlt

namespace Compilation

/-- the segments of other groups than `g` that have the value of `a` among their members -/
def takers (c : Compilation V D) (g : Group) (a : Nat) : List (Segment V) :=
  c.segments.filter fun s => s.group ≠ g ∧ a ∈ s.members.map Member.id

/-- the warnings of the pass that the value of `a` went nowhere -/
def warnings (c : Compilation V D) (a : Nat) : List Diagnostic :=
  c.notices.filter fun m => m.code = 429 ∧ a ∈ m.blocks

namespace Fresh

variable {r : Renderer V D} {blocks : List Block} {c : Compilation V D}

/-! ## the segments that take a value in -/

theorem nodup_segments (h : c.Fresh r blocks) : c.segments.Nodup := by
  refine List.Nodup.of_map Segment.group ?_
  have hgroups : c.segments.map Segment.group = c.table.reverse.flatMap Level.nonEmpty := by
    rw [h.segments_eq, List.map_flatMap]
    refine List.flatMap_congr fun l _ => ?_
    rw [List.map_map]
    exact List.map_id _
  rw [hgroups]
  exact h.table_over.nodup_groups

section
variable (h : c.Fresh r blocks) {l : Level} {g : Group} {a : Nat} (hl : l ∈ c.table)
  (hg : g ∈ l.nonEmpty) (ha : g.head? = some a)
include h hl hg ha

/-- **no two segments take the same value** -/
theorem eq_of_mem_folded {s s' : Segment V} (hs : s ∈ c.segments) (hs' : s' ∈ c.segments)
    (hf : a ∈ s.folded) (hf' : a ∈ s'.folded) : s = s' := by
  obtain ⟨k, hk, e, he, rfl⟩ := h.mem_segments.mp hs
  obtain ⟨k', hk', e', he', rfl⟩ := h.mem_segments.mp hs'
  obtain ⟨_, p, hp, hpe, _⟩ := (h.mem_folded_iff hl hg ha hk he).mp hf
  obtain ⟨_, p', hp', hpe', _⟩ := (h.mem_folded_iff hl hg ha hk' he').mp hf'
  obtain rfl := hp.unique hp'
  obtain ⟨rfl, rfl⟩ := h.table_over.group_eq hk hk' he he' hpe hpe'
  rfl

/-- the segments that take a value in are those that it is folded into -/
theorem mem_takers {s : Segment V} : s ∈ c.takers g a ↔ s ∈ c.segments ∧ a ∈ s.folded := by
  unfold takers
  rw [List.mem_filter, decide_eq_true_iff]
  refine and_congr_right fun hs => ?_
  obtain ⟨k, hk, e, he, rfl⟩ := h.mem_segments.mp hs
  obtain ⟨_, _, hcov⟩ := (h.table_over.levels k hk).covers he
  have hmem : a ∈ e → e = g := fun hae =>
    (h.table_over.group_eq hk hl he hg hae (List.mem_of_head? ha)).2
  show e ≠ g ∧ _ ↔ _
  rw [Segment.mem_ids_iff r hcov]
  constructor
  · rintro ⟨hne, hae⟩
    exact hae.resolve_left fun hae => hne (hmem hae)
  · intro hf
    refine ⟨?_, Or.inr hf⟩
    rintro rfl
    obtain ⟨had, _⟩ := (h.mem_folded_iff hl hg ha hk he).mp hf
    obtain ⟨rfl, _⟩ := h.table_over.group_eq hk hl he hg (List.mem_of_head? ha) (List.mem_of_head? ha)
    exact Nat.lt_irrefl _ had.lt

theorem takers_eq_singleton {s : Segment V} (hs : s ∈ c.segments) (hf : a ∈ s.folded) :
    c.takers g a = [s] := by
  refine eq_singleton_of_nodup (List.Nodup.filter _ h.nodup_segments) fun s' => ?_
  show s' ∈ c.takers g a ↔ _
  rw [h.mem_takers hl hg ha]
  constructor
  · rintro ⟨hs', hf'⟩
    exact h.eq_of_mem_folded hl hg ha hs' hs hf' hf
  · rintro rfl
    exact ⟨hs, hf⟩

theorem takers_eq_nil (hf : ∀ s ∈ c.segments, a ∉ s.folded) : c.takers g a = [] := by
  rw [List.eq_nil_iff_forall_not_mem]
  intro s hs
  obtain ⟨hs, hfs⟩ := (h.mem_takers hl hg ha).mp hs
  exact hf s hs hfs

theorem exists_lt_of_mem_folded {s : Segment V} (hs : s ∈ c.segments) (hf : a ∈ s.folded) :
    ∃ b ∈ blocks, b.indent < l.depth := by
  obtain ⟨k, hk, e, he, rfl⟩ := h.mem_segments.mp hs
  obtain ⟨had, _⟩ := (h.mem_folded_iff hl hg ha hk he).mp hf
  obtain ⟨b, hb, hd⟩ := (h.table_over.depths k.depth).mp had.left
  exact ⟨b, hb, hd ▸ had.lt⟩

end

end Fresh

end Compilation

/-! ## the values that are reported -/

theorem Pass.unattached_eq (p : Pass V) (table : GroupTable) :
    p.unattached table = p.cells.zipIdx.filterMap fun x =>
      if x.2 ∈ GroupTable.anchors table.tail ∧ x.2 ∉ p.folded ∧ x.1.state.value?.isSome then
        some (x.2, x.1.block.indent)
      else none := rfl

theorem Pass.pairwise_unattached (p : Pass V) (table : GroupTable) :
    (p.unattached table).Pairwise (·.1 < ·.1) := by
  rw [unattached_eq]
  refine (pairwise_zipIdx _).filterMap _ ?_
  intro x y hlt q hx q' hy
  split at hx
  · split at hy
    · obtain rfl := Option.some.inj hx
      obtain rfl := Option.some.inj hy
      exact hlt
    · cases hy
  · cases hx

namespace Compilation

namespace Fresh

variable {r : Renderer V D} {blocks : List Block} {c : Compilation V D}

theorem mem_anchors_tail (h : c.Fresh r blocks) {a : Nat} :
    a ∈ GroupTable.anchors c.table.tail ↔ ∃ l ∈ c.table, (∃ b ∈ blocks, b.indent < l.depth) ∧
      ∃ g ∈ l.nonEmpty, g.head? = some a := by
  rw [GroupTable.Over.mem_anchors]
  simp only [h.table_over.mem_tail, and_assoc]

/-- what is reported of the blocks as a render leaves them, whatever was folded -/
theorem mem_unattached_pass (h : c.Fresh r blocks) {p : Pass V} (hp : p.cells = c.cells)
    {a n : Nat} : (a, n) ∈ p.unattached c.table ↔ a ∈ GroupTable.anchors c.table.tail ∧
      a ∉ p.folded ∧ blocks[a]?.map Block.indent = some n := by
  rw [Pass.unattached_eq, hp, List.mem_filterMap]
  constructor
  · rintro ⟨⟨cell, id⟩, hcell, hx⟩
    rw [List.mk_mem_zipIdx_iff_getElem?] at hcell
    split at hx
    · next hid =>
      obtain ⟨rfl, rfl⟩ := Prod.mk.inj (Option.some.inj hx)
      refine ⟨hid.1, hid.2.1, ?_⟩
      rw [h.settled.block_eq hcell]
      rfl
    · cases hx
  · rintro ⟨hanchor, hfree, hn⟩
    obtain ⟨b, hb, hd⟩ := Option.map_eq_some_iff.mp hn
    obtain ⟨cell, hcell, rfl⟩ := h.settled.getElem?_eq_some hb
    refine ⟨(cell, a), List.mk_mem_zipIdx_iff_getElem?.mpr hcell, ?_⟩
    have hvalue : (c.value? a).isSome := by
      obtain ⟨l, hl, _, hg⟩ := h.mem_anchors_tail.mp hanchor
      exact h.value?_isSome.mpr (GroupTable.Over.mem_anchors.mpr ⟨l, hl, hg⟩)
    unfold value? at hvalue
    rw [hcell, Option.bind_some] at hvalue
    rw [if_pos ⟨hanchor, hfree, hvalue⟩, hd]

end Fresh

theorem nodup_unattached (r : Renderer V D) (blocks : List Block) :
    ((ofBlocks r blocks).unattached.map Prod.fst).Nodup :=
  List.pairwise_map.mpr ((Pass.pairwise_unattached _ _).imp Nat.ne_of_lt)

/-- the values that are reported are those below the least depth that no segment takes in -/
theorem mem_unattached (r : Renderer V D) (blocks : List Block) {a n : Nat} :
    let c := ofBlocks r blocks
    (a, n) ∈ c.unattached ↔ (∃ l ∈ c.table, (∃ b ∈ blocks, b.indent < l.depth) ∧
      ∃ g ∈ l.nonEmpty, g.head? = some a) ∧ (∀ s ∈ c.segments, a ∉ s.folded) ∧
        blocks[a]?.map Block.indent = some n := by
  intro c
  have h : c.Fresh r blocks := fresh r blocks
  have hfolded : a ∉ Pass.folded ⟨c.segments, c.cells⟩ ↔ ∀ s ∈ c.segments, a ∉ s.folded := by
    simp [Pass.folded]
  rw [← h.mem_anchors_tail, ← hfolded]
  exact h.mem_unattached_pass rfl

theorem warnings_eq (r : Renderer V D) (blocks : List Block) (a : Nat) :
    let c := ofBlocks r blocks
    c.warnings a = (c.unattached.filter (·.1 = a)).map fun (id, depth) =>
      (Problem.unattached depth).on [id] := by
  intro c
  have h : c.Fresh r blocks := fresh r blocks
  have hnil : (c.segments.flatMap Segment.notices).filter
      (fun m => m.code = 429 ∧ a ∈ m.blocks) = [] := by
    rw [List.filter_eq_nil_iff]
    intro m hm
    obtain ⟨s, hs, hm⟩ := List.mem_flatMap.mp hm
    rw [h.notices_segment hs m hm]
    simp [Problem.on, Problem.code]
  unfold warnings notices
  rw [List.filter_append, hnil, List.nil_append, List.filter_map]
  congr 1
  refine List.filter_congr fun x _ => ?_
  show decide ((429 : Nat) = 429 ∧ a ∈ [x.1]) = _
  simp [eq_comm]

theorem warnings_eq_nil (r : Renderer V D) {blocks : List Block} {a : Nat}
    (h : ∀ n, (a, n) ∉ (ofBlocks r blocks).unattached) : (ofBlocks r blocks).warnings a = [] := by
  rw [warnings_eq r blocks a, List.map_eq_nil_iff, List.filter_eq_nil_iff]
  rintro ⟨id, n⟩ hx hid
  obtain rfl : id = a := by simpa using hid
  exact h n hx

theorem warnings_eq_singleton (r : Renderer V D) {blocks : List Block} {a n : Nat}
    (h : ∀ m, (a, m) ∈ (ofBlocks r blocks).unattached ↔ m = n) :
    (ofBlocks r blocks).warnings a = [(Problem.unattached n).on [a]] := by
  have hnodup : ((ofBlocks r blocks).unattached.filter (·.1 = a)).Nodup :=
    (List.Nodup.of_map Prod.fst (nodup_unattached r blocks)).filter _
  have hone : (ofBlocks r blocks).unattached.filter (·.1 = a) = [(a, n)] := by
    refine eq_singleton_of_nodup hnodup ?_
    rintro ⟨id, m⟩
    rw [List.mem_filter, decide_eq_true_iff]
    constructor
    · rintro ⟨hx, rfl⟩
      rw [(h m).mp hx]
    · intro e
      obtain ⟨rfl, rfl⟩ := Prod.mk.inj e
      exact ⟨(h m).mpr rfl, rfl⟩
  rw [warnings_eq r blocks a, hone]
  rfl

/-- **Every value is taken once or reported once.**  The value of a group below the least depth is a
member of the segment of just one other group, of the depth before, or the pass gives just one
warning about it; the value of a group at the least depth is in no other segment, and the pass gives
no warning about it. -/
theorem taken_once_or_reported (r : Renderer V D) (blocks : List Block) :
    let c := ofBlocks r blocks
    ∀ l ∈ c.table, ∀ g ∈ l.nonEmpty, ∀ a, g.head? = some a →
      ((∃ b ∈ blocks, b.indent < l.depth) →
        (∃ s, c.takers g a = [s] ∧
          ∃ l' ∈ c.table, s.group ∈ l'.nonEmpty ∧ c.table.Adjacent l'.depth l.depth) ∧
            c.warnings a = [] ∨
        c.takers g a = [] ∧ c.warnings a = [(Problem.unattached l.depth).on [a]]) ∧
      ((∀ b ∈ blocks, l.depth ≤ b.indent) → c.takers g a = [] ∧ c.warnings a = []) := by
  intro c l hl g hg a ha
  have h : c.Fresh r blocks := fresh r blocks
  have hunattached : ∀ n, (a, n) ∈ c.unattached ↔ _ := fun n => mem_unattached r blocks
  have hdepth : blocks[a]?.map Block.indent = some l.depth := by
    obtain ⟨_, _, hcov⟩ := (h.table_over.levels l hl).covers hg
    obtain ⟨b, hb, hd⟩ := Block.mem_idsAt.mp ((hcov.mem_iff a).mp (List.mem_of_head? ha)).1
    rw [hb, Option.map_some, hd]
  refine ⟨fun hlt => ?_, fun hle => ?_⟩
  · by_cases htaken : ∃ s ∈ c.segments, a ∈ s.folded
    · obtain ⟨s, hs, hf⟩ := htaken
      refine Or.inl ⟨⟨s, h.takers_eq_singleton hl hg ha hs hf, ?_⟩, ?_⟩
      · obtain ⟨k, hk, e, he, rfl⟩ := h.mem_segments.mp hs
        exact ⟨k, hk, he, ((h.mem_folded_iff hl hg ha hk he).mp hf).1⟩
      · refine warnings_eq_nil r fun n hn => ?_
        exact ((hunattached n).mp hn).2.1 s hs hf
    · have hfree : ∀ s ∈ c.segments, a ∉ s.folded := fun s hs hf => htaken ⟨s, hs, hf⟩
      refine Or.inr ⟨h.takers_eq_nil hl hg ha hfree, warnings_eq_singleton r fun n => ?_⟩
      refine (mem_unattached r blocks).trans ?_
      rw [hdepth, Option.some.injEq]
      constructor
      · rintro ⟨_, _, e⟩
        exact e.symm
      · intro e
        exact ⟨⟨l, hl, hlt, g, hg, ha⟩, hfree, e.symm⟩
  · have hnone : ¬∃ b ∈ blocks, b.indent < l.depth := by
      rintro ⟨b, hb, hlt⟩
      have := hle b hb
      omega
    refine ⟨h.takers_eq_nil hl hg ha fun s hs hf =>
      hnone (h.exists_lt_of_mem_folded hl hg ha hs hf), warnings_eq_nil r fun n hn => ?_⟩
    obtain ⟨⟨l', hl', hlt, g', hg', ha'⟩, _⟩ := (hunattached n).mp hn
    obtain ⟨rfl, _⟩ :=
      h.table_over.group_eq hl hl' hg hg' (List.mem_of_head? ha) (List.mem_of_head? ha')
    exact hnone hlt

/-- the block 1 is deeper by two steps, so its value is reported -/
theorem reported_of_skipped_depth :
    let c := ofBlocks Renderer.anchorIds [⟨0, [], 0⟩, ⟨2, [], 1⟩, ⟨1, [], 2⟩]
    c.takers [1] 1 = [] ∧ c.warnings 1 = [(Problem.unattached 2).on [1]] := by
  intro c
  obtain ⟨h, _⟩ := taken_once_or_reported Renderer.anchorIds
    [⟨0, [], 0⟩, ⟨2, [], 1⟩, ⟨1, [], 2⟩] ⟨2, [[1]], []⟩ (by decide) [1] (by decide) 1 rfl
  have hnone : c.takers [1] 1 = [] := by decide
  refine (h ⟨⟨0, [], 0⟩, by decide, by decide⟩).resolve_left ?_
  rintro ⟨⟨s, hs, _⟩, _⟩
  exact absurd (hnone.symm.trans hs) (by simp)

end Compilation

end QuestScript
