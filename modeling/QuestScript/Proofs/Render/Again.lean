import QuestScript.Proofs.Render.Mixed

/-!
# Rendering once more

When blocks that have been rendered are rendered once more with the states they have, no group is
rendered: its own blocks are passed over, and only the values that went into it the first time are
found again.  When the states are forgotten first, the render is the first one.

* `Segment.again`            what a segment comes to the second time;
* `Segment.render_eq_again`  the segment of a group whose blocks have left `unset`;
* `Pass.runLevels_eq_again`  a pass over such blocks;
* `Fresh.ofCells_again`      a whole render of such blocks;
* `Session.rerender_forget`  a render that forgets the states first;
* `Session.render_again`     all of it together.
-/

namespace QuestScript

variable {V D : Type}

/-! ## one segment -/

namespace Segment

/-- the values of deeper groups among the members, by the ids of their anchors -/
def children (s : Segment V) : List Nat := (s.members.filter Member.isFolded).map Member.id

/-- what a segment comes to the second time -/
def again (s : Segment V) : Segment V :=
  let members := s.members.filter Member.isFolded
  ⟨s.group, members, [], if members = [] then .empty else .anchorTaken⟩

theorem outcome_again (s : Segment V) :
    s.again.outcome = .empty ∧ s.children = [] ∨ s.again.outcome = .anchorTaken ∧ s.children ≠ [] := by
  unfold children
  rw [ne_eq, List.map_eq_nil_iff]
  by_cases h : s.members.filter Member.isFolded = []
  · exact Or.inl ⟨if_pos h, h⟩
  · exact Or.inr ⟨if_neg h, h⟩

theorem calls_again (s : Segment V) : s.again.calls = [] := by
  unfold calls
  rcases s.outcome_again with ⟨h, _⟩ | ⟨h, _⟩ <;> rw [h]

theorem folded_again (s : Segment V) : s.again.folded = [] := by
  unfold folded
  rcases s.outcome_again with ⟨h, _⟩ | ⟨h, _⟩ <;> rw [h]

/-- the second time, a segment gives one message -/
theorem diagnostics_again (s : Segment V) :
    s.again.diagnostics = [if s.children = [] then Problem.emptyBlockList.on []
      else Problem.anchorRendered.on s.children] := by
  unfold diagnostics notices
  rcases s.outcome_again with ⟨h, hchildren⟩ | ⟨h, hchildren⟩
  · rw [h, if_pos hchildren]
    rfl
  · rw [h, if_neg hchildren]
    rfl

theorem apply_again (s : Segment V) (cells : List (Cell V)) : s.again.apply cells = cells := by
  have hstate : ∀ id old, s.again.stateAfter id old = old := by
    intro id old
    unfold stateAfter
    rcases s.outcome_again with ⟨h, _⟩ | ⟨h, _⟩ <;> rw [h]
  apply List.ext_getElem?
  intro id
  rw [getElem?_apply]
  simp only [hstate]
  exact congrFun Option.map_id _

theorem outcomeOf_filter_isFolded (r : Renderer V D) (ms : List (Member V)) :
    outcomeOf r (ms.filter Member.isFolded) =
      if ms.filter Member.isFolded = [] then .empty else .anchorTaken := by
  cases h : ms.filter Member.isFolded with
  | nil => rfl
  | cons m rest =>
    have hm : m.isFolded = true := (List.mem_filter.mp (h ▸ List.mem_cons_self)).2
    cases m with
    | own id b => cases hm
    | folded id v => rfl

/-! ### a group whose blocks have left `unset` -/

section
variable {cells : List (Cell V)} {d : Nat} {next : Option Nat} (hnext : ∀ n ∈ next, d < n)
include hnext

/-- a block that has left `unset` is a member if it was a folded one the first time -/
theorem member?_again {c : Cell V} {id : Nat} (hc : cells[id]? = some c) (hu : c.state ≠ .unset) :
    member? next (c, id) =
      (memberAt (cells.map Cell.block) (valueOf cells) next d id).filter Member.isFolded := by
  unfold memberAt
  rw [getElem?_map_block hc, Option.bind_some, valueOf_eq hc]
  obtain ⟨b, state⟩ := c
  dsimp only
  by_cases hd : b.indent = d
  · -- a block of the group itself is no member any more, whether it has a value or not
    have hne : some b.indent ≠ next := by
      rintro rfl
      exact Nat.lt_irrefl d (hd ▸ hnext b.indent rfl)
    rw [if_pos hd]
    cases state with
    | unset => exact absurd rfl hu
    | seen => rfl
    | value v => exact if_neg hne
  · rw [if_neg hd]
    by_cases hn : some b.indent = next
    · rw [if_pos hn]
      cases state with
      | unset => exact absurd rfl hu
      | seen => rfl
      | value v => exact if_pos hn
    · rw [if_neg hn]
      cases state with
      | unset => exact absurd rfl hu
      | seen => rfl
      | value v => exact if_neg hn

/-- **the segment of a group** whose blocks have left `unset` -/
theorem render_eq_again (hdone : ∀ c ∈ cells, c.state ≠ .unset) (r : Renderer V D) {g : Group}
    {start stop : Nat} (hcov : Group.Covers (cells.map Cell.block) d g start stop) :
    render r next cells d g start stop =
      (ofValues r (cells.map Cell.block) (valueOf cells) next d g).again := by
  have hmembers : (span cells next d start stop).filterMap (member? next) =
      ((Group.span (cells.map Cell.block) next d g).filterMap
        (memberAt (cells.map Cell.block) (valueOf cells) next d)).filter Member.isFolded := by
    rw [filterMap_span cells next d hcov.head hcov.last hcov.start_le, List.filter_filterMap]
    refine List.filterMap_congr fun id hid => ?_
    have hlt := hcov.lt_length_of_mem_span hid
    rw [List.length_map] at hlt
    have hc := List.getElem?_eq_getElem hlt
    rw [hc, Option.bind_some, member?_again hnext hc (hdone _ (List.getElem_mem hlt))]
  have hmisplaced : (span cells next d start stop).filterMap (misplaced? d) = [] := by
    rw [filterMap_span cells next d hcov.head hcov.last hcov.start_le, List.filterMap_eq_nil_iff]
    intro id _
    cases hc : cells[id]? with
    | none => rfl
    | some c =>
      have hu := hdone c (List.mem_of_getElem? hc)
      obtain ⟨b, state⟩ := c
      cases state with
      | unset => exact absurd rfl hu
      | seen => rfl
      | value v => rfl
  unfold render
  dsimp only
  rw [hmembers, hmisplaced, outcomeOf_filter_isFolded]
  rfl

end

end Segment

/-! ## a pass -/

namespace Pass

section
variable (r : Renderer V D) {cells : List (Cell V)} (hdone : ∀ c ∈ cells, c.state ≠ .unset)
include hdone

theorem runGroups_eq_again {next : Option Nat} {d : Nat} (hnext : ∀ n ∈ next, d < n)
    (groups : List Group)
    (hg : ∀ g ∈ groups, ∃ start stop, Group.Covers (cells.map Cell.block) d g start stop) :
    runGroups r next d cells groups = ⟨groups.map fun g =>
      (Segment.ofValues r (cells.map Cell.block) (valueOf cells) next d g).again, cells⟩ := by
  induction groups with
  | nil => rfl
  | cons g groups ih =>
    rw [List.forall_mem_cons] at hg
    obtain ⟨⟨start, stop, hcov⟩, hg⟩ := hg
    rw [runGroups, hcov.head, hcov.last]
    dsimp only
    rw [Segment.render_eq_again hnext hdone r hcov, Segment.apply_again, ih hg]
    rfl

/-- **a pass** over blocks that have left `unset` -/
theorem runLevels_eq_again {table : GroupTable}
    (ht : table.Over (cells.map Cell.block) (Level.Cut (cells.map Cell.block)))
    (levels : List Level) : ∀ shallower, table = shallower ++ levels →
      runLevels r cells levels = ⟨levels.reverse.flatMap fun l => l.nonEmpty.map fun g =>
        (Segment.ofValues r (cells.map Cell.block) (valueOf cells)
          (table.nextDepth? l.depth) l.depth g).again, cells⟩ := by
  induction levels with
  | nil => exact fun _ _ => rfl
  | cons l deeper ih =>
    intro shallower e
    have hl : l ∈ table := by simp [e]
    have hnext : deeper.head?.map Level.depth = table.nextDepth? l.depth := by
      rw [e]
      exact (GroupTable.nextDepth?_append (e ▸ ht.sorted)).symm
    have hlt : ∀ n ∈ table.nextDepth? l.depth, l.depth < n := by
      intro n hn
      exact ((ht.nextDepth?_eq_some (List.mem_map_of_mem hl)).mp hn).lt
    rw [runLevels, hnext, ih (shallower ++ [l]) (by rw [e, List.append_assoc]; rfl)]
    dsimp only
    rw [runGroups_eq_again r hdone hlt l.nonEmpty fun g hg => (ht.levels l hl).covers hg,
      List.reverse_cons, List.flatMap_append, List.flatMap_singleton]

end

end Pass

/-! ## a whole render -/

namespace Compilation

/-- what a render makes of a pass over its blocks -/
def ofPass (r : Renderer V D) (table : GroupTable) (p : Pass V) : Compilation V D where
  cells := p.cells
  table := table
  segments := p.segments
  unattached := p.unattached table
  roots := p.roots table
  document := (r.document (p.roots table)).1
  diagnostics := p.segments.flatMap Segment.diagnostics ++
    (p.unattached table).map (fun x => (Problem.unattached x.2).on [x.1]) ++
    (r.document (p.roots table)).2

theorem ofCells_eq_ofPass (r : Renderer V D) (cells : List (Cell V)) :
    let table := GroupTable.build (cells.map Cell.block)
    ofCells r cells = ofPass r table (Pass.runLevels r cells table) := rfl

namespace Fresh

variable {r : Renderer V D} {blocks : List Block} {c : Compilation V D}

/-- the second pass, which may be one of another renderer -/
theorem runLevels_again (h : c.Fresh r blocks) (r' : Renderer V D) :
    Pass.runLevels r' c.cells c.table = ⟨c.segments.map Segment.again, c.cells⟩ := by
  have hdone : ∀ cell ∈ c.cells, cell.state ≠ .unset := by
    intro cell hcell
    obtain ⟨id, hc⟩ := List.getElem?_of_mem hcell
    exact (h.state_iff hc).1
  have hblocks : c.cells.map Cell.block = blocks := h.settled.blocks_eq
  rw [Pass.runLevels_eq_again r' hdone (hblocks.symm ▸ h.table_over) c.table [] rfl, hblocks,
    h.segments_eq, List.map_flatMap]
  congr 1
  refine List.flatMap_congr fun l _ => ?_
  rw [List.map_map]
  rfl

/-- **a second render**, which may be one of another renderer -/
theorem ofCells_again (h : c.Fresh r blocks) (r' : Renderer V D) :
    ofCells r' c.cells = ofPass r' c.table ⟨c.segments.map Segment.again, c.cells⟩ := by
  rw [ofCells_eq_ofPass, h.settled.blocks_eq, ← h.table_eq, h.runLevels_again]

/-- no value counts as folded the second time, so all values below the least depth are reported -/
theorem mem_unattached_again (h : c.Fresh r blocks) {a n : Nat} :
    (a, n) ∈ Pass.unattached ⟨c.segments.map Segment.again, c.cells⟩ c.table ↔
      ∃ l ∈ c.table, l.depth = n ∧ (∃ b ∈ blocks, b.indent < l.depth) ∧
        ∃ g ∈ l.nonEmpty, g.head? = some a := by
  have hfree : a ∉ Pass.folded ⟨c.segments.map Segment.again, c.cells⟩ := by
    simp [Pass.folded, Segment.folded_again]
  have hdepth : ∀ l ∈ c.table, ∀ g ∈ l.nonEmpty, g.head? = some a →
      blocks[a]?.map Block.indent = some l.depth := by
    intro l hl g hg ha
    obtain ⟨_, _, hcov⟩ := (h.table_over.levels l hl).covers hg
    obtain ⟨b, hb, hd⟩ := hcov.exists_block (List.mem_of_head? ha)
    rw [hb, Option.map_some, hd]
  rw [h.mem_unattached_pass rfl, h.mem_anchors_tail]
  constructor
  · rintro ⟨⟨l, hl, hlt, g, hg, ha⟩, _, hn⟩
    rw [hdepth l hl g hg ha] at hn
    exact ⟨l, hl, Option.some.inj hn, hlt, g, hg, ha⟩
  · rintro ⟨l, hl, rfl, hlt, g, hg, ha⟩
    exact ⟨⟨l, hl, hlt, g, hg, ha⟩, hfree, hdepth l hl g hg ha⟩

end Fresh

end Compilation

/-! ## a session -/

namespace Session

/-- the session renders `blocks` with `r` -/
structure Holds (r : Renderer V D) (blocks : List Block) (s : Session V D) : Prop where
  renderer_eq : s.renderer = r
  blocks_eq : s.cells.map Cell.block = blocks

theorem holds_render (s : Session V D) (cells : List (Cell V)) :
    (s.render cells).Holds s.renderer (cells.map Cell.block) where
  renderer_eq := rfl
  blocks_eq := (Compilation.steps_ofCells s.renderer cells).1.blocks_eq

theorem render_congr {s s' : Session V D} (h : s.renderer = s'.renderer) (cells : List (Cell V)) :
    s.render cells = s'.render cells := by
  unfold render
  rw [h]

namespace Holds

variable {r : Renderer V D} {blocks : List Block} {s : Session V D}

theorem map_fresh (h : s.Holds r blocks) :
    s.cells.map (fun c => Cell.fresh c.block) = blocks.map (Cell.fresh (V := V)) := by
  rw [← h.blocks_eq, List.map_map]
  rfl

theorem rerender (h : s.Holds r blocks) (forget : Bool) : (s.rerender forget).Holds r blocks := by
  have hblocks : (if forget then s.cells.map (fun c => Cell.fresh c.block) else s.cells).map
      Cell.block = blocks := by
    cases forget with
    | true => exact h.map_fresh ▸ (settled_fresh blocks []).blocks_eq
    | false => exact h.blocks_eq
  have hrender := holds_render s (if forget then s.cells.map (fun c => Cell.fresh c.block) else
    s.cells)
  rwa [hblocks, h.renderer_eq] at hrender

theorem foldl_rerender (passes : List Bool) :
    ∀ {s : Session V D}, s.Holds r blocks → (passes.foldl Session.rerender s).Holds r blocks := by
  induction passes with
  | nil => exact fun h => h
  | cons forget passes ih => exact fun h => ih (h.rerender forget)

end Holds

/-- **a render that forgets the states first** is a render of the blocks as they were read -/
theorem rerender_forget {r : Renderer V D} {blocks : List Block} {s s' : Session V D}
    (h : s.Holds r blocks) (hr : s'.renderer = r) :
    s.rerender true = s'.render (blocks.map Cell.fresh) := by
  rw [← h.map_fresh]
  exact render_congr (h.renderer_eq.trans hr.symm) _

/-- **Rendering once more.**  A second render leaves the states of the blocks, the table and the
document as they are.  It calls the renderer for no unit, and so does not depend on what the renderer
makes of units.  It gives one message a group, in the order of the first render, which tells the
values that were folded into it then; then it warns of all values below the least depth, and last
come the messages about the document.  A render that forgets the states is the first one again,
after any passes. -/
theorem render_again (s : Session V D) (blocks : List Block) :
    let r := s.renderer
    let first := s.render (blocks.map Cell.fresh)
    let c := Compilation.ofBlocks r blocks
    let again := Compilation.ofCells r c.cells
    (first.last = some c ∧ (first.rerender false).last = some again) ∧
    (again.cells = c.cells ∧ again.table = c.table ∧ again.document = c.document) ∧
    ((∀ s ∈ again.segments, s.calls = []) ∧
      ∀ unit, Compilation.ofCells ⟨unit, r.document, r.metadata⟩ c.cells = again) ∧
    (c.table.Pairwise (·.depth < ·.depth) ∧
      (∀ l ∈ c.table, l.nonEmpty.Pairwise fun g g' => ∀ i ∈ g, ∀ j ∈ g', i < j) ∧
      c.segments.map Segment.group = c.table.reverse.flatMap Level.nonEmpty) ∧
    (∃ anchors : List (Nat × Nat), anchors.Pairwise (·.1 < ·.1) ∧
      (∀ a n, (a, n) ∈ anchors ↔ ∃ l ∈ c.table, l.depth = n ∧
        (∃ b ∈ blocks, b.indent < l.depth) ∧ ∃ g ∈ l.nonEmpty, g.head? = some a) ∧
      again.diagnostics =
        c.segments.map (fun s => if s.children = [] then Problem.emptyBlockList.on []
          else Problem.anchorRendered.on s.children) ++
        anchors.map (fun x => (Problem.unattached x.2).on [x.1]) ++ (r.document c.roots).2) ∧
    ∀ passes : List Bool, (passes.foldl Session.rerender first).rerender true = first := by
  intro r first c again
  have h : c.Fresh r blocks := Compilation.fresh r blocks
  have hagain : again = Compilation.ofPass r c.table ⟨c.segments.map Segment.again, c.cells⟩ :=
    h.ofCells_again r
  refine ⟨⟨rfl, rfl⟩, ?_, ⟨?_, fun unit => ?_⟩, ⟨h.table_over.sorted, ?_, ?_⟩,
    ⟨Pass.unattached ⟨c.segments.map Segment.again, c.cells⟩ c.table,
      Pass.pairwise_unattached _ _, fun a n => h.mem_unattached_again, ?_⟩, ?_⟩
  · rw [hagain]
    exact ⟨rfl, rfl, rfl⟩
  · rw [hagain]
    intro s hs
    obtain ⟨s, _, rfl⟩ := List.mem_map.mp hs
    exact s.calls_again
  · rw [hagain]
    exact h.ofCells_again _
  · exact fun l hl => (h.table_over.levels l hl).pairwise
  · exact (Compilation.steps_ofCells r _).2
  · rw [hagain]
    show (c.segments.map Segment.again).flatMap Segment.diagnostics ++ _ ++ _ = _
    congr 2
    rw [List.flatMap_map, List.map_eq_flatMap]
    exact List.flatMap_congr fun s _ => s.diagnostics_again
  · intro passes
    have hfirst := holds_render s (blocks.map Cell.fresh)
    rw [(settled_fresh blocks []).blocks_eq] at hfirst
    exact rerender_forget (hfirst.foldl_rerender passes) rfl

/-- the second time, the value on block 1 is found again but is not folded -/
example : let c := Compilation.ofBlocks Renderer.anchorIds [⟨0, [], 0⟩, ⟨1, [], 1⟩]
    ((Compilation.ofCells Renderer.anchorIds c.cells).diagnostics.map fun m => (m.code, m.blocks)) =
      [(508, []), (509, [1]), (429, [1])] := by
  decide

end Session

end QuestScript
