import QuestScript.Proofs.Render.Settled

/-!
# A pass over fresh blocks

What a pass over blocks that no render has met comes to:

* `Settled.runGroups`    the groups of one level, from left to right;
* `Settled.runLevels`    the levels, the deepest first;
* `Compilation.fresh`    a whole render: every group has the segment of `Segment.ofValues`, its value
                         is kept on its first block, and every other block is seen.
-/

namespace QuestScript

variable {V D : Type}

/-! ## one level -/

theorem Settled.runGroups_cons (r : Renderer V D) {next : Option Nat} {blocks : List Block}
    {anchors : List Nat} {done : Nat → Prop} {cells : List (Cell V)} {d : Nat} {g : Group}
    {start stop : Nat} (h : Settled blocks anchors done cells)
    (hcov : Group.Covers blocks d g start stop) (hfree : ∀ id ∈ g, ¬done id)
    (hdeep : ∀ id b, blocks[id]? = some b → d < b.indent → done id) (groups : List Group) :
    Pass.runGroups r next d cells (g :: groups) =
      let s := Segment.ofValues r blocks (valueOf cells) next d g
      let p := Pass.runGroups r next d (s.apply cells) groups
      ⟨s :: p.segments, p.cells⟩ := by
  rw [Pass.runGroups, hcov.head, hcov.last]
  dsimp only
  rw [h.render_eq hcov hfree hdeep r]

/-- the groups of a level, where none of their blocks is done and all deeper blocks are -/
theorem Settled.runGroups (r : Renderer V D) (next : Option Nat) {blocks : List Block}
    {anchors : List Nat} {d : Nat} (groups : List Group)
    (hg : ∀ g ∈ groups, ∃ start stop, Group.Covers blocks d g start stop ∧
      ∀ id ∈ g, id ∈ anchors ↔ id = start)
    (hp : groups.Pairwise fun g g' => ∀ i ∈ g, ∀ j ∈ g', i < j) :
    ∀ (done : Nat → Prop) (cells : List (Cell V)), Settled blocks anchors done cells →
      (∀ g ∈ groups, ∀ id ∈ g, ¬done id) →
      (∀ id b, blocks[id]? = some b → d < b.indent → done id) →
      let p := Pass.runGroups r next d cells groups
      Settled blocks anchors (fun id => done id ∨ id ∈ groups.flatten) p.cells ∧
        (∀ id, done id → valueOf p.cells id = valueOf cells id) ∧
        p.segments = groups.map (Segment.ofValues r blocks (valueOf p.cells) next d) ∧
        ∀ s ∈ p.segments, s.Kept (valueOf p.cells) := by
  induction groups with
  | nil =>
    intro done cells h _ _
    refine ⟨h.congr fun id _ => by simp, fun _ _ => rfl, rfl, ?_⟩
    intro s hs
    cases hs
  | cons g groups ih =>
    -- the blocks of `g` are done after its segment, and the groups after it share none with it
    intro done cells h hfree hdeep
    obtain ⟨start, stop, hcov, hanchor⟩ := hg g List.mem_cons_self
    obtain ⟨hlt, hp'⟩ := List.pairwise_cons.mp hp
    have hfree' := hfree g List.mem_cons_self
    have hstep : Settled blocks anchors (fun id => done id ∨ id ∈ g)
        ((Segment.ofValues r blocks (valueOf cells) next d g).apply cells) :=
      h.apply hcov hfree' hdeep hanchor r
    obtain ⟨h1, h2, h3, h4⟩ := ih (fun g' hg' => hg g' (List.mem_cons_of_mem _ hg')) hp' _ _ hstep
      (by
        rintro g' hg' id hid (hd | hid')
        · exact hfree g' (List.mem_cons_of_mem _ hg') id hid hd
        · exact Nat.lt_irrefl id (hlt g' hg' id hid' id hid))
      (fun id b hb hd => Or.inl (hdeep id b hb hd))
    rw [h.runGroups_cons r hcov hfree' hdeep groups]
    dsimp only
    have hkeep : ∀ id, done id →
        valueOf (Pass.runGroups r next d
          ((Segment.ofValues r blocks (valueOf cells) next d g).apply cells) groups).cells id
          = valueOf cells id := by
      intro id hid
      rw [h2 id (Or.inl hid)]
      exact h.valueOf_apply hcov hfree' r _ hid
    refine ⟨h1.congr fun id _ => by simp [or_assoc], hkeep, ?_, ?_⟩
    · rw [List.map_cons, h3]
      congr 1
      exact Segment.ofValues_congr r hcov (fun id b hb hd => (hkeep id (hdeep id b hb hd)).symm) next
    · rw [List.forall_mem_cons]
      refine ⟨?_, h4⟩
      exact h.kept_apply hcov r _ (h2 start (Or.inr hcov.start_mem))

/-! ## all levels -/

/-- what the levels of a table come to, once they are rendered -/
structure Pass.Settles (r : Renderer V D) (blocks : List Block) (table : GroupTable)
    (levels : List Level) (p : Pass V) : Prop where
  settled : Settled blocks table.anchors
    (fun id => ∃ b, blocks[id]? = some b ∧ b.indent ∈ levels.map Level.depth) p.cells
  segments_eq : p.segments = levels.reverse.flatMap fun l =>
    l.nonEmpty.map (Segment.ofValues r blocks (valueOf p.cells) (table.nextDepth? l.depth) l.depth)
  kept : ∀ s ∈ p.segments, s.Kept (valueOf p.cells)

/-- what was rendered stays as it is while the blocks of its levels keep their values -/
theorem Pass.Settles.congr {r : Renderer V D} {blocks : List Block} {table : GroupTable}
    (ht : table.Over blocks (Level.Cut blocks)) {levels : List Level} {p : Pass V}
    (h : p.Settles r blocks table levels) (hsub : ∀ l ∈ levels, l ∈ table)
    (hclosed : ∀ l ∈ levels, ∀ d ∈ table.depths, l.depth < d → d ∈ levels.map Level.depth)
    {value : Nat → Option V} (hv : ∀ id b, blocks[id]? = some b → b.indent ∈ levels.map Level.depth →
      valueOf p.cells id = value id) :
    (p.segments = levels.reverse.flatMap fun l =>
      l.nonEmpty.map (Segment.ofValues r blocks value (table.nextDepth? l.depth) l.depth)) ∧
      ∀ s ∈ p.segments, s.Kept value := by
  constructor
  · rw [h.segments_eq]
    refine List.flatMap_congr fun l hl => List.map_congr_left fun g hg => ?_
    rw [List.mem_reverse] at hl
    obtain ⟨start, stop, hcov⟩ := (ht.levels l (hsub l hl)).covers hg
    refine Segment.ofValues_congr r hcov ?_ _
    intro id b hb hlt
    exact hv id b hb (hclosed l hl b.indent (ht.mem_depths hb) hlt)
  · intro s hs
    refine (h.kept s hs).congr ?_
    rw [h.segments_eq] at hs
    obtain ⟨l, hl, hs⟩ := List.mem_flatMap.mp hs
    obtain ⟨g, hg, rfl⟩ := List.mem_map.mp hs
    rw [List.mem_reverse] at hl
    obtain ⟨start, stop, hcov⟩ := (ht.levels l (hsub l hl)).covers hg
    intro id hid
    obtain ⟨b, hb, hd⟩ := hcov.exists_block hid
    exact hv id b hb (hd ▸ List.mem_map_of_mem hl)

theorem Settled.runLevels (r : Renderer V D) {blocks : List Block} {table : GroupTable}
    (ht : table.Over blocks (Level.Cut blocks)) (levels : List Level) :
    ∀ shallower, table = shallower ++ levels →
      Pass.Settles r blocks table levels
        (Pass.runLevels r (blocks.map (Cell.fresh (V := V))) levels) := by
  induction levels with
  | nil =>
    intro _ _
    refine ⟨(settled_fresh blocks _).congr fun id _ => by simp, rfl, ?_⟩
    intro s hs
    cases hs
  | cons l deeper ih =>
    -- what is done before the level of `l` are just the blocks of greater depths
    intro shallower e
    have hp := ih (shallower ++ [l]) (by rw [e, List.append_assoc]; rfl)
    have hl : l ∈ table := by simp [e]
    have hcut := ht.levels l hl
    have hg : ∀ g ∈ l.nonEmpty, ∃ start stop, Group.Covers blocks l.depth g start stop ∧
        ∀ id ∈ g, id ∈ table.anchors ↔ id = start := by
      intro g hg
      obtain ⟨start, stop, hcov⟩ := hcut.covers hg
      exact ⟨start, stop, hcov, fun id hid => ht.mem_anchors_iff hl hg hcov.head hid⟩
    have hfree : ∀ g ∈ l.nonEmpty, ∀ id ∈ g,
        ¬∃ b, blocks[id]? = some b ∧ b.indent ∈ deeper.map Level.depth := by
      rintro g hg' id hid ⟨b, hb, hd⟩
      obtain ⟨start, stop, hcov, _⟩ := hg g hg'
      have := ((ht.mem_deeper_iff e).mp hd).2
      have := hcov.indent_eq hid hb
      omega
    have hdeep : ∀ (id : Nat) (b : Block), blocks[id]? = some b → l.depth < b.indent →
        ∃ b', blocks[id]? = some b' ∧ b'.indent ∈ deeper.map Level.depth :=
      fun id b hb hlt => ⟨b, hb, (ht.mem_deeper_iff e).mpr ⟨ht.mem_depths hb, hlt⟩⟩
    have hnext : deeper.head?.map Level.depth = table.nextDepth? l.depth := by
      rw [e]
      exact (GroupTable.nextDepth?_append (e ▸ ht.sorted)).symm
    rw [Pass.runLevels, hnext]
    obtain ⟨h1, h2, h3, h4⟩ := Settled.runGroups r (table.nextDepth? l.depth) l.nonEmpty hg
      hcut.pairwise _ _ hp.settled hfree hdeep
    have hclosed : ∀ l' ∈ deeper, ∀ d ∈ table.depths, l'.depth < d →
        d ∈ deeper.map Level.depth := by
      intro l' hl' d hd hlt
      have := ((ht.mem_deeper_iff e).mp (List.mem_map_of_mem hl')).2
      exact (ht.mem_deeper_iff e).mpr ⟨hd, by omega⟩
    obtain ⟨hsegments, hkept⟩ := hp.congr ht (fun l' hl' => by simp [e, hl']) hclosed
      fun id b hb hd => (h2 id ⟨b, hb, hd⟩).symm
    refine ⟨h1.congr ?_, ?_, ?_⟩
    · intro id hid
      obtain ⟨b, hb⟩ : ∃ b, blocks[id]? = some b := ⟨_, List.getElem?_eq_getElem hid⟩
      rw [hcut.flatten, Block.mem_idsAt, List.map_cons]
      simp only [hb, Option.some.injEq, exists_eq_left', List.mem_cons]
      exact or_comm
    · dsimp only
      rw [h3, hsegments, List.reverse_cons, List.flatMap_append, List.flatMap_singleton]
    · intro s hs
      rcases List.mem_append.mp hs with hs | hs
      · exact hkept s hs
      · exact h4 s hs

/-! ## a whole render -/

/-- what a render of fresh blocks comes to: every group has the segment of its values, its value is
kept on its first block, and every other block is seen -/
structure Compilation.Fresh (r : Renderer V D) (blocks : List Block) (c : Compilation V D) :
    Prop where
  table_eq : c.table = GroupTable.build blocks
  table_over : c.table.Over blocks (Level.Cut blocks)
  settled : Settled blocks c.table.anchors (fun _ => True) c.cells
  segments_eq : c.segments = c.table.reverse.flatMap fun l =>
    l.nonEmpty.map (Segment.ofValues r blocks c.value? (c.table.nextDepth? l.depth) l.depth)
  kept : ∀ s ∈ c.segments, s.Kept c.value?

/-- **a whole render** of blocks that no render has met -/
theorem Compilation.fresh (r : Renderer V D) (blocks : List Block) :
    (ofBlocks r blocks).Fresh r blocks := by
  have hblocks : (blocks.map (Cell.fresh (V := V))).map Cell.block = blocks :=
    (settled_fresh blocks []).blocks_eq
  have ht := GroupTable.cut_build blocks
  have htable : (ofBlocks r blocks).table = GroupTable.build blocks := by
    show GroupTable.build ((blocks.map Cell.fresh).map Cell.block) = _
    rw [hblocks]
  have hp := Settled.runLevels r ht (GroupTable.build blocks) [] rfl
  have hcells : (ofBlocks r blocks).cells = (Pass.runLevels r (blocks.map Cell.fresh)
      (GroupTable.build blocks)).cells := by
    rw [← htable]
    rfl
  have hsegments : (ofBlocks r blocks).segments = (Pass.runLevels r (blocks.map Cell.fresh)
      (GroupTable.build blocks)).segments := by
    rw [← htable]
    rfl
  have hvalue : (ofBlocks r blocks).value? = valueOf (ofBlocks r blocks).cells := rfl
  refine ⟨htable, htable ▸ ht, ?_, ?_, ?_⟩
  · rw [htable, hcells]
    refine hp.settled.congr fun id hid => iff_of_true ?_ trivial
    exact ⟨_, List.getElem?_eq_getElem hid, ht.mem_depths (List.getElem?_eq_getElem hid)⟩
  · rw [hvalue, htable, hcells, hsegments]
    exact hp.segments_eq
  · rw [hvalue, hcells, hsegments]
    exact hp.kept

namespace Compilation.Fresh

variable {r : Renderer V D} {blocks : List Block} {c : Compilation V D}

theorem mem_segments (h : c.Fresh r blocks) {s : Segment V} :
    s ∈ c.segments ↔ ∃ l ∈ c.table, ∃ g ∈ l.nonEmpty,
      Segment.ofValues r blocks c.value? (c.table.nextDepth? l.depth) l.depth g = s := by
  rw [h.segments_eq]
  simp only [List.mem_flatMap, List.mem_reverse, List.mem_map]

/-- every segment is rendered -/
theorem exists_unit (h : c.Fresh r blocks) {s : Segment V} (hs : s ∈ c.segments) :
    ∃ kind u, s.outcome = .rendered kind u (r.unit kind u).1 (r.unit kind u).2 := by
  obtain ⟨l, hl, g, hg, rfl⟩ := h.mem_segments.mp hs
  obtain ⟨_, _, hcov⟩ := (h.table_over.levels l hl).covers hg
  obtain ⟨b, _, _, _, hout⟩ := Segment.ofValues_outcome r hcov c.value?
    (c.table.nextDepth? l.depth)
  exact ⟨b.kind, _, hout⟩

theorem value?_isSome (h : c.Fresh r blocks) {id : Nat} :
    (c.value? id).isSome ↔ id ∈ c.table.anchors := by
  unfold value?
  cases hc : c.cells[id]? with
  | none =>
    refine iff_of_false (by simp) ?_
    intro ha
    obtain ⟨l, hl, g, hg, hhead⟩ := GroupTable.Over.mem_anchors.mp ha
    obtain ⟨start, stop, hcov⟩ := (h.table_over.levels l hl).covers hg
    have hlt := Block.lt_of_mem_idsAt ((hcov.mem_iff id).mp (List.mem_of_head? hhead)).1
    have hlen : c.cells.length = blocks.length := by
      rw [← h.settled.blocks_eq, List.length_map]
    rw [List.getElem?_eq_none_iff] at hc
    omega
  | some cell =>
    have hm := h.settled.marks id cell hc
    show cell.state.value?.isSome ↔ _
    cases hs : cell.state with
    | unset => rw [hs] at hm; exact absurd trivial hm
    | seen => rw [hs] at hm; exact iff_of_false (by simp [RenderState.value?]) hm.2
    | value v => rw [hs] at hm; exact iff_of_true rfl hm.2

end Compilation.Fresh

/-- the renderer whose values are the ids of the anchors -/
def Renderer.anchorIds : Renderer Nat (List Nat) :=
  ⟨fun _ u => (u.anchorId, []), fun values => (values, []), fun _ => []⟩

end QuestScript
