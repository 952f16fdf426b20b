import QuestScript.Proofs.Render.States
import Mathlib.Data.Nat.Find

/-!
# Where the value of a group goes

The value of a group of depth `n` can only go to a group of the depth before `n`, and of these only
to the one that holds the last block above it (`Block.NearestBelow`).

* `Group.Covers.mem_span_iff`       the segment of a group reaches a block of the next depth just if
                                    the nearest block below stands in the group, and the block right
                                    after that has the next depth or the group goes on later;
* `Fresh.mem_folded_iff`            so the value of an anchor is folded just there;
* `Compilation.folded_iff_nearest`  the rule for the parent of a group.
-/

namespace QuestScript

variable {V D : Type}

/-! ## the nearest block below -/

/-- `p` is the last block before `a` of a depth less than `n` -/
structure Block.NearestBelow (blocks : List Block) (n a p : Nat) : Prop where
  before : p < a
  below : ∃ b, blocks[p]? = some b ∧ b.indent < n
  between : ∀ j b, blocks[j]? = some b → p < j → j < a → n ≤ b.indent

namespace Block.NearestBelow

variable {blocks : List Block} {n a p : Nat}

theorem unique {q : Nat} (hp : NearestBelow blocks n a p) (hq : NearestBelow blocks n a q) :
    p = q := by
  obtain ⟨b, hb, hlt⟩ := hp.below
  obtain ⟨b', hb', hlt'⟩ := hq.below
  rcases Nat.lt_trichotomy p q with h | h | h
  · have := hp.between q b' hb' h hq.before
    omega
  · exact h
  · have := hq.between p b hb h hp.before
    omega

theorem exists_of_lt {start : Nat} {b : Block} (hlt : start < a) (hb : blocks[start]? = some b)
    (hn : b.indent < n) : ∃ p, NearestBelow blocks n a p ∧ start ≤ p := by
  classical
  let P : Nat → Prop := fun j => j < a ∧ ∃ b, blocks[j]? = some b ∧ b.indent < n
  have hstart : P start := ⟨hlt, b, hb, hn⟩
  obtain ⟨h1, h2⟩ := Nat.findGreatest_spec (P := P) hlt.le hstart
  refine ⟨Nat.findGreatest P a, ⟨h1, h2, ?_⟩, Nat.le_findGreatest hlt.le hstart⟩
  intro j b' hb' hj hja
  have := Nat.findGreatest_is_greatest hj hja.le
  by_contra hlt'
  exact this ⟨hja, b', hb', by omega⟩

end Block.NearestBelow

section
variable {blocks : List Block} {d n : Nat} {g : Group} {start stop a p : Nat}

/-- within a group, the nearest block below is one of the group, where no depth lies between -/
theorem Block.NearestBelow.mem_group (hp : NearestBelow blocks n a p)
    (h : Group.Covers blocks d g start stop) (hadj : ∀ b ∈ blocks, b.indent ≤ d ∨ n ≤ b.indent)
    (h1 : start ≤ p) (h2 : p ≤ stop) : p ∈ g := by
  obtain ⟨b, hb, hlt⟩ := hp.below
  have hle : b.indent ≤ d := (hadj b (List.mem_of_getElem? hb)).resolve_right (by omega)
  have hge := h.deep p b hb h1 h2
  exact (h.mem_iff p).mpr ⟨Block.mem_idsAt.mpr ⟨b, hb, by omega⟩, h1, h2⟩

/-- after a group, the nearest block below is its last one or comes later -/
theorem Block.NearestBelow.stop_le (hp : NearestBelow blocks n a p)
    (h : Group.Covers blocks d g start stop) (hdn : d < n) (hstop : stop < a) : stop ≤ p := by
  by_contra hlt
  obtain ⟨b, hb, hd⟩ := h.exists_block h.stop_mem
  have := hp.between stop b hb (by omega) hstop
  omega

section
variable (h : Group.Covers blocks d g start stop) (hdn : d < n)
  (hadj : ∀ b ∈ blocks, b.indent ≤ d ∨ n ≤ b.indent) {b : Block} (ha : blocks[a]? = some b)
  (hb : b.indent = n)
include h hdn hadj ha hb

theorem Group.Covers.exists_nearest (hspan : a ∈ Group.span blocks (some n) d g) :
    ∃ p, Block.NearestBelow blocks n a p ∧ p ∈ g ∧
      (blocks[p + 1]?.map Block.indent = some n ∨ ∃ q ∈ g, a < q) := by
  have hne : ∀ id ∈ g, id ≠ a := by
    rintro id hid rfl
    have := h.indent_eq hid ha
    omega
  obtain ⟨h1, h2⟩ := h.mem_span.mp hspan
  obtain ⟨s, hs, hds⟩ := h.exists_block h.start_mem
  obtain ⟨p, hp, hsp⟩ := Block.NearestBelow.exists_of_lt
    (Nat.lt_of_le_of_ne h1 (hne start h.start_mem)) hs (by omega : s.indent < n)
  by_cases hstop : a ≤ stop
  · refine ⟨p, hp, hp.mem_group h hadj hsp (by have := hp.before; omega), Or.inr ?_⟩
    exact ⟨stop, h.stop_mem, Nat.lt_of_le_of_ne hstop (hne stop h.stop_mem).symm⟩
  · obtain ⟨⟨m, hm, hnext⟩, hdeep⟩ := h2.resolve_left hstop
    have hle : p ≤ stop := by
      -- a later block would be below `n`, so not deeper than the group
      by_contra hlt
      obtain ⟨b', hb', hlt'⟩ := hp.below
      obtain ⟨b'', hb'', hd⟩ := hdeep p (by omega) hp.before.le
      obtain rfl := Option.some.inj (hb'.symm.trans hb'')
      have := (hadj b' (List.mem_of_getElem? hb')).resolve_right (by omega)
      omega
    obtain rfl : stop = p := Nat.le_antisymm (hp.stop_le h hdn (by omega)) hle
    exact ⟨stop, hp, h.stop_mem, Or.inl (hm ▸ hnext)⟩

omit hadj in
theorem Group.Covers.mem_span_of_nearest (hp : Block.NearestBelow blocks n a p) (hpg : p ∈ g)
    (hcase : blocks[p + 1]?.map Block.indent = some n ∨ ∃ q ∈ g, a < q) :
    a ∈ Group.span blocks (some n) d g := by
  obtain ⟨_, hsp, hpstop⟩ := (h.mem_iff p).mp hpg
  refine h.mem_span.mpr ⟨hsp.trans hp.before.le, ?_⟩
  by_cases hstop : a ≤ stop
  · exact Or.inl hstop
  · -- past the end of the group, the nearest block below is the last one of the group
    obtain rfl : stop = p := Nat.le_antisymm (hp.stop_le h hdn (by omega)) hpstop
    rcases hcase with hnext | ⟨q, hq, hlt⟩
    · refine Or.inr ⟨⟨n, rfl, hnext⟩, ?_⟩
      intro j hj hja
      have hlt : j < blocks.length := hja.trans_lt (List.getElem?_eq_some_iff.mp ha).1
      refine ⟨blocks[j], List.getElem?_eq_getElem hlt, ?_⟩
      rcases Nat.lt_or_eq_of_le hja with hja | rfl
      · exact hdn.trans_le (hp.between j _ (List.getElem?_eq_getElem hlt) hj hja)
      · obtain rfl := Option.some.inj ((List.getElem?_eq_getElem hlt).symm.trans ha)
        omega
    · have := ((h.mem_iff q).mp hq).2.2
      omega

/-- **what a segment reaches**, where no depth lies between the one of the group and `n` -/
theorem Group.Covers.mem_span_iff : a ∈ Group.span blocks (some n) d g ↔
    ∃ p, Block.NearestBelow blocks n a p ∧ p ∈ g ∧
      (blocks[p + 1]?.map Block.indent = some n ∨ ∃ q ∈ g, a < q) := by
  constructor
  · exact h.exists_nearest hdn hadj ha hb
  · rintro ⟨p, hp, hpg, hcase⟩
    exact h.mem_span_of_nearest hdn ha hb hp hpg hcase

end

end

/-! ## members of a segment -/

section
variable (r : Renderer V D) {blocks : List Block} {d : Nat} {g : Group} {start stop : Nat}
  (hg : Group.Covers blocks d g start stop) (value : Nat → Option V) (next : Option Nat)
include hg

/-- the values that are folded into a segment: those of the next depth that it reaches -/
theorem Segment.mem_folded_ofValues {a : Nat} :
    a ∈ (ofValues r blocks value next d g).folded ↔ a ∈ Group.span blocks next d g ∧
      ∃ b, blocks[a]? = some b ∧ b.indent ≠ d ∧ some b.indent = next ∧ (value a).isSome := by
  obtain ⟨_, _, _, _, hout⟩ := ofValues_outcome r hg value next
  unfold folded
  rw [hout]
  show a ∈ (List.filter _ ((Group.span blocks next d g).filterMap _)).map Member.id ↔ _
  rw [List.mem_map]
  constructor
  · rintro ⟨m, hm, rfl⟩
    obtain ⟨hm, hfold⟩ := List.mem_filter.mp hm
    obtain ⟨id, hid, hm⟩ := List.mem_filterMap.mp hm
    rw [id_of_memberAt hm]
    obtain ⟨b, hb, ⟨_, rfl⟩ | ⟨hne, hnext, v, hv, _⟩⟩ := memberAt_eq_some.mp hm
    · cases hfold
    · exact ⟨hid, b, hb, hne, hnext, Option.isSome_iff_exists.mpr ⟨v, hv⟩⟩
  · rintro ⟨hspan, b, hb, hne, hnext, hv⟩
    obtain ⟨v, hv⟩ := Option.isSome_iff_exists.mp hv
    refine ⟨@Member.folded V a b v, List.mem_filter.mpr ⟨?_, rfl⟩, rfl⟩
    refine List.mem_filterMap.mpr ⟨a, hspan, ?_⟩
    exact memberAt_eq_some.mpr ⟨b, hb, Or.inr ⟨hne, hnext, v, hv, rfl⟩⟩

theorem Segment.mem_ids_iff {a : Nat} :
    a ∈ (ofValues r blocks value next d g).members.map Member.id ↔
      a ∈ g ∨ a ∈ (ofValues r blocks value next d g).folded := by
  rw [mem_ids_ofValues, mem_folded_ofValues r hg]
  constructor
  · rintro ⟨hspan, h⟩
    obtain ⟨m, hm⟩ := Option.isSome_iff_exists.mp h
    obtain ⟨b, hb, ⟨heq, _⟩ | ⟨hne, hnext, v, hv, _⟩⟩ := memberAt_eq_some.mp hm
    · rcases hg.le_indent_of_mem_span hspan hb with hlt | ⟨_, hmem⟩
      · omega
      · exact Or.inl hmem
    · exact Or.inr ⟨hspan, b, hb, hne, hnext, Option.isSome_iff_exists.mpr ⟨v, hv⟩⟩
  · rintro (hmem | ⟨hspan, b, hb, hne, hnext, hv⟩)
    · exact (mem_ids_ofValues r value next).mp (Settled.mem_ids_of_mem hg r value hmem)
    · obtain ⟨v, hv⟩ := Option.isSome_iff_exists.mp hv
      have hm := memberAt_eq_some.mpr ⟨b, hb, Or.inr ⟨hne, hnext, v, hv, rfl⟩⟩
      exact ⟨hspan, Option.isSome_iff_exists.mpr ⟨_, hm⟩⟩

/-- the members of a segment follow each other in the order of their ids -/
theorem Segment.pairwise_ids : ((ofValues r blocks value next d g).members.map Member.id).Pairwise
    (· < ·) := by
  have hspan : (Group.span blocks next d g).Pairwise (· < ·) := by
    rw [hg.span_eq]
    exact List.pairwise_lt_range'
  rw [List.pairwise_map]
  refine hspan.filterMap _ ?_
  intro i j hlt m hm m' hm'
  rwa [id_of_memberAt hm, id_of_memberAt hm']

end

/-! ## a whole render -/

namespace Compilation.Fresh

variable {r : Renderer V D} {blocks : List Block} {c : Compilation V D}

/-- **where a value is folded**: the segment of the depth before the one of the anchor whose group
holds the nearest block below, if it reaches the anchor -/
theorem mem_folded_iff (h : c.Fresh r blocks) {l l' : Level} {g g' : Group} {a : Nat}
    (hl : l ∈ c.table) (hg : g ∈ l.nonEmpty) (ha : g.head? = some a) (hl' : l' ∈ c.table)
    (hg' : g' ∈ l'.nonEmpty) :
    a ∈ (Segment.ofValues r blocks c.value? (c.table.nextDepth? l'.depth) l'.depth g').folded ↔
      c.table.Adjacent l'.depth l.depth ∧ ∃ p, Block.NearestBelow blocks l.depth a p ∧ p ∈ g' ∧
        (blocks[p + 1]?.map Block.indent = some l.depth ∨ ∃ q ∈ g', a < q) := by
  obtain ⟨_, _, hcov⟩ := (h.table_over.levels l hl).covers hg
  obtain ⟨_, _, hcov'⟩ := (h.table_over.levels l' hl').covers hg'
  obtain ⟨b, hb, hd⟩ := hcov.exists_block (List.mem_of_head? ha)
  have hvalue : (c.value? a).isSome :=
    h.value?_isSome.mpr (GroupTable.Over.mem_anchors.mpr ⟨l, hl, g, hg, ha⟩)
  have hadj := h.table_over.nextDepth?_eq_some (n := l.depth) (List.mem_map_of_mem hl')
  have hspan : c.table.Adjacent l'.depth l.depth →
      (a ∈ Group.span blocks (some l.depth) l'.depth g' ↔ _) := fun had =>
    hcov'.mem_span_iff had.lt
      (fun b hb => had.none_between _ ((h.table_over.depths _).mpr ⟨b, hb, rfl⟩)) hb hd
  rw [Segment.mem_folded_ofValues r hcov']
  constructor
  · rintro ⟨hmem, b', hb', _, hnext, _⟩
    obtain rfl := Option.some.inj (hb.symm.trans hb')
    rw [hd] at hnext
    have had := hadj.mp hnext.symm
    rw [← hnext] at hmem
    exact ⟨had, (hspan had).mp hmem⟩
  · rintro ⟨had, hex⟩
    have hnext := hadj.mpr had
    rw [hnext]
    refine ⟨(hspan had).mpr hex, b, hb, ?_, by rw [hd], hvalue⟩
    have := had.lt
    omega

end Compilation.Fresh

/-- **The parent of a group.**  Let `a` be the first block of a group of depth `n`, and `d` the depth
before `n`.  The value of the group is folded just if the nearest block below has depth `d`, and the
block right after it has depth `n` or its group goes on after `a`; and it is folded into the segment
of the group of that block. -/
theorem Compilation.folded_iff_nearest (r : Renderer V D) (blocks : List Block) :
    let c := ofBlocks r blocks
    ∀ l ∈ c.table, (∃ b ∈ blocks, b.indent < l.depth) → ∀ g ∈ l.nonEmpty, ∀ a, g.head? = some a →
      ∃ d, c.table.Adjacent d l.depth ∧
        ((∃ s ∈ c.segments, a ∈ s.folded) ↔
          ∃ p, Block.NearestBelow blocks l.depth a p ∧ blocks[p]?.map Block.indent = some d ∧
            (blocks[p + 1]?.map Block.indent = some l.depth ∨
              ∃ l' ∈ c.table, ∃ g' ∈ l'.nonEmpty, p ∈ g' ∧ ∃ q ∈ g', a < q)) ∧
        ∀ s ∈ c.segments, a ∈ s.folded →
          ∀ p, Block.NearestBelow blocks l.depth a p → p ∈ s.group := by
  rintro c l hl ⟨b, hb, hlt⟩ g hg a ha
  have h : c.Fresh r blocks := fresh r blocks
  obtain ⟨d, had⟩ := h.table_over.exists_adjacent hl hb hlt
  refine ⟨d, had, ⟨?_, ?_⟩, ?_⟩
  · rintro ⟨s, hs, hfold⟩
    obtain ⟨l', hl', g', hg', rfl⟩ := h.mem_segments.mp hs
    obtain ⟨had', p, hp, hpg, hcase⟩ := (h.mem_folded_iff hl hg ha hl' hg').mp hfold
    obtain ⟨_, _, hcov⟩ := (h.table_over.levels l' hl').covers hg'
    obtain ⟨bp, hbp, hdp⟩ := Block.mem_idsAt.mp ((hcov.mem_iff p).mp hpg).1
    refine ⟨p, hp, ?_, hcase.imp_right fun hq => ⟨l', hl', g', hg', hpg, hq⟩⟩
    rw [hbp, Option.map_some, hdp, had'.left_unique had]
  · rintro ⟨p, hp, hdp, hcase⟩
    obtain ⟨bp, hbp, hdp⟩ := Option.map_eq_some_iff.mp hdp
    obtain ⟨l', hl', hd', g', hg', hpg⟩ := h.table_over.exists_group hbp
    refine ⟨_, h.mem_segments.mpr ⟨l', hl', g', hg', rfl⟩, ?_⟩
    rw [h.mem_folded_iff hl hg ha hl' hg', hd', hdp]
    refine ⟨had, p, hp, hpg, hcase.imp_right ?_⟩
    rintro ⟨l'', hl'', g'', hg'', hpg'', hq⟩
    obtain ⟨_, rfl⟩ := h.table_over.group_eq hl' hl'' hg' hg'' hpg hpg''
    exact hq
  · rintro s hs hfold p hp
    obtain ⟨l', hl', g', hg', rfl⟩ := h.mem_segments.mp hs
    obtain ⟨_, q, hq, hqg, _⟩ := (h.mem_folded_iff hl hg ha hl' hg').mp hfold
    rw [hp.unique hq]
    exact hqg

/-- the block 2 is folded into the group of the block 0, though a block of another depth follows
that at once: the group goes on -/
theorem Compilation.folded_of_group_goes_on :
    let c := ofBlocks Renderer.anchorIds [⟨0, [], 0⟩, ⟨2, [], 1⟩, ⟨1, [], 2⟩, ⟨0, [], 3⟩]
    ∃ s ∈ c.segments, 2 ∈ s.folded ∧ 0 ∈ s.group := by
  intro c
  have hp : Block.NearestBelow [⟨0, [], 0⟩, ⟨2, [], 1⟩, ⟨1, [], 2⟩, ⟨0, [], 3⟩] 1 2 0 := by
    refine ⟨by decide, ⟨⟨0, [], 0⟩, rfl, by decide⟩, ?_⟩
    intro j b hb h1 h2
    obtain rfl : j = 1 := by omega
    obtain rfl := Option.some.inj hb
    decide
  obtain ⟨d, had, hiff, hgroup⟩ := folded_iff_nearest Renderer.anchorIds
    [⟨0, [], 0⟩, ⟨2, [], 1⟩, ⟨1, [], 2⟩, ⟨0, [], 3⟩] ⟨1, [[2]], []⟩ (by decide)
    ⟨⟨0, [], 0⟩, by decide, by decide⟩ [2] (by decide) 2 rfl
  obtain rfl : d = 0 := Nat.lt_one_iff.mp had.lt
  obtain ⟨s, hs, hfold⟩ := hiff.mpr ⟨0, hp, rfl, Or.inr ⟨⟨0, [], [0, 3]⟩, by decide, [0, 3],
    by decide, by decide, 3, by decide, by decide⟩⟩
  exact ⟨s, hs, hfold, hgroup s hs hfold 0 hp⟩

end QuestScript
