import QuestScript.Proofs.Render.Fresh

/-!
# What a render leaves behind

After a render of fresh blocks every block has left `unset`: the first block of each group carries
the value of the group, and every other block is seen.  The pass has none of the internal messages
to give, and the document is made of the values at the least depth, in order.

* `Compilation.mem_diagnostics`  where a message of a render comes from;
* `Fresh.code_of_mem_notices`    the messages that a pass over fresh blocks may give itself;
* `Compilation.roots_eq`         the values that go into the document;
* `Compilation.ofBlocks_states`  all of it together.
-/

namespace QuestScript

variable {V D : Type}

theorem Level.Cut.pairwise_anchors {blocks : List Block} {l : Level} (h : l.Cut blocks) :
    l.anchors.Pairwise (· < ·) := by
  unfold Level.anchors
  rw [List.pairwise_filterMap]
  refine h.pairwise.imp ?_
  intro g g' hlt i hi j hj
  exact hlt i (List.mem_of_head? hi) j (List.mem_of_head? hj)

theorem GroupTable.Over.mem_roots {blocks : List Block} {P : Level → Prop} {table : GroupTable}
    (h : table.Over blocks P) {id : Nat} :
    id ∈ table.roots ↔ ∃ l ∈ table, (∀ b ∈ blocks, l.depth ≤ b.indent) ∧
      ∃ g ∈ l.nonEmpty, g.head? = some id := by
  cases table with
  | nil => simp [roots]
  | cons l ls =>
    show id ∈ l.anchors ↔ _
    rw [Level.mem_anchors]
    constructor
    · intro hg
      exact ⟨l, List.mem_cons_self, (h.depth_le_iff List.mem_cons_self).mpr rfl, hg⟩
    · rintro ⟨m, hm, hle, hg⟩
      rwa [(h.depth_le_iff hm).mp hle] at hg

theorem GroupTable.pairwise_roots {table : GroupTable}
    (h : ∀ l ∈ table, l.anchors.Pairwise (· < ·)) : table.roots.Pairwise (· < ·) := by
  cases table with
  | nil => exact List.Pairwise.nil
  | cons l ls => exact h l List.mem_cons_self

namespace Compilation

/-- a message comes from the pass itself, from the renderer of a unit, or from the document -/
theorem mem_diagnostics (r : Renderer V D) (cells : List (Cell V)) (m : Diagnostic) :
    let c := ofCells r cells
    m ∈ c.diagnostics ↔
      m ∈ c.notices ∨ (∃ s ∈ c.segments, m ∈ s.outcome.log) ∨ m ∈ (r.document c.roots).2 := by
  intro c
  let warnings := c.unattached.map fun x => (Problem.unattached x.2).on [x.1]
  have hd : c.diagnostics = c.segments.flatMap (fun s => s.notices ++ s.outcome.log) ++ warnings ++
      (r.document c.roots).2 := rfl
  have hn : c.notices = c.segments.flatMap Segment.notices ++ warnings := rfl
  rw [hd, hn]
  simp only [List.mem_append, List.mem_flatMap]
  grind

namespace Fresh

variable {r : Renderer V D} {blocks : List Block} {c : Compilation V D}

/-- a segment of a pass over fresh blocks gives at most the message about a quest header -/
theorem notices_segment (h : c.Fresh r blocks) {s : Segment V} (hs : s ∈ c.segments) :
    ∀ m ∈ s.notices, m = Problem.manyQuestBlocks.on (s.members.map Member.id) := by
  obtain ⟨l, hl, g, hg, rfl⟩ := h.mem_segments.mp hs
  obtain ⟨start, stop, hcov⟩ := (h.table_over.levels l hl).covers hg
  obtain ⟨b, rest, _, _, hout⟩ := Segment.ofValues_outcome r hcov c.value?
    (c.table.nextDepth? l.depth)
  intro m hm
  unfold Segment.notices at hm
  rw [hout] at hm
  dsimp only at hm
  have hmis : (Segment.ofValues r blocks c.value? (c.table.nextDepth? l.depth) l.depth g).misplaced
      = [] := rfl
  rw [hmis, List.map_nil, List.nil_append] at hm
  split at hm
  · exact List.mem_singleton.mp hm
  · cases hm

/-- the messages that a pass over fresh blocks may give itself -/
theorem code_of_mem_notices (h : c.Fresh r blocks) {m : Diagnostic} (hm : m ∈ c.notices) :
    m.code = 423 ∨ m.code = 429 := by
  rcases List.mem_append.mp hm with hm | hm
  · obtain ⟨s, hs, hm⟩ := List.mem_flatMap.mp hm
    rw [h.notices_segment hs m hm]
    exact Or.inl rfl
  · obtain ⟨_, _, rfl⟩ := List.mem_map.mp hm
    exact Or.inr rfl

theorem state_iff (h : c.Fresh r blocks) {id : Nat} {cell : Cell V}
    (hc : c.cells[id]? = some cell) : cell.state ≠ .unset ∧
      ((∃ v, cell.state = .value v) ↔ id ∈ c.table.anchors) ∧
      (cell.state = .seen ↔ id ∉ c.table.anchors) := by
  have hm := h.settled.marks id cell hc
  cases hs : cell.state with
  | unset => rw [hs] at hm; exact absurd trivial hm
  | seen => rw [hs] at hm; simpa using hm.2
  | value v => rw [hs] at hm; simpa using hm.2

end Fresh

/-- the values of the document are those of the groups at the least depth -/
theorem roots_eq (r : Renderer V D) (blocks : List Block) :
    (ofBlocks r blocks).roots.map some =
      (ofBlocks r blocks).table.roots.map (ofBlocks r blocks).value? := by
  have h := fresh r blocks
  have hroots : (ofBlocks r blocks).roots =
      (ofBlocks r blocks).table.roots.filterMap (ofBlocks r blocks).value? := rfl
  have hsome : ∀ id ∈ (ofBlocks r blocks).table.roots,
      ((ofBlocks r blocks).value? id).isSome := by
    intro id hid
    obtain ⟨l, hl, _, hg⟩ := h.table_over.mem_roots.mp hid
    exact h.value?_isSome.mpr (GroupTable.Over.mem_anchors.mpr ⟨l, hl, hg⟩)
  rw [hroots]
  generalize (ofBlocks r blocks).table.roots = ids at hsome ⊢
  induction ids with
  | nil => rfl
  | cons id ids ih =>
    obtain ⟨hid, hids⟩ := List.forall_mem_cons.mp hsome
    obtain ⟨v, hv⟩ := Option.isSome_iff_exists.mp hid
    rw [List.filterMap_cons_some hv, List.map_cons, List.map_cons, ih hids, hv]

/-- **After a render of fresh blocks** no block is unset; a block carries a value just if it is the
first of a group, and is seen otherwise; the pass itself gives none of the messages 507, 508 and
509; and the document is made of the values of the groups at the least depth, in order. -/
theorem ofBlocks_states (r : Renderer V D) (blocks : List Block) :
    let c := ofBlocks r blocks
    c.blocks = blocks ∧
    (∀ id cell, c.cells[id]? = some cell → cell.state ≠ .unset ∧
      ((∃ v, cell.state = .value v) ↔ ∃ l ∈ c.table, ∃ g ∈ l.nonEmpty, g.head? = some id) ∧
      (cell.state = .seen ↔ ¬∃ l ∈ c.table, ∃ g ∈ l.nonEmpty, g.head? = some id)) ∧
    (∀ m ∈ c.notices, m.code ≠ 507 ∧ m.code ≠ 508 ∧ m.code ≠ 509) ∧
    (∀ m ∈ c.diagnostics, m.code = 507 ∨ m.code = 508 ∨ m.code = 509 →
      (∃ s ∈ c.segments, m ∈ s.outcome.log) ∨ m ∈ (r.document c.roots).2) ∧
    c.document = (r.document c.roots).1 ∧
    ∃ anchors : List Nat, anchors.Pairwise (· < ·) ∧
      (∀ id, id ∈ anchors ↔ ∃ l ∈ c.table, (∀ b ∈ blocks, l.depth ≤ b.indent) ∧
        ∃ g ∈ l.nonEmpty, g.head? = some id) ∧
      c.roots.map some = anchors.map c.value? := by
  intro c
  have h : c.Fresh r blocks := fresh r blocks
  have hcodes : ∀ m ∈ c.notices, m.code ≠ 507 ∧ m.code ≠ 508 ∧ m.code ≠ 509 := by
    intro m hm
    have := h.code_of_mem_notices hm
    omega
  refine ⟨h.settled.blocks_eq, ?_, hcodes, ?_, rfl, c.table.roots, ?_, ?_, roots_eq r blocks⟩
  · intro id cell hcell
    rw [← GroupTable.Over.mem_anchors]
    exact h.state_iff hcell
  · intro m hm hcode
    rcases (mem_diagnostics r _ m).mp hm with hm | hm
    · have := hcodes m hm
      omega
    · exact hm
  · exact GroupTable.pairwise_roots fun l hl => (h.table_over.levels l hl).pairwise_anchors
  · exact fun id => h.table_over.mem_roots

end Compilation

end QuestScript
