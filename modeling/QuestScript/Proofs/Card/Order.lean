import QuestScript.Proofs.Card.Marked
import QuestScript.Proofs.Render.Parent

/-!
# Documents are in the order of their source

A walk over a document in preorder meets the units in the order of their anchors, whatever the
indentation.  The units are told by the marks of a marked render (`CardFormat.Trees.renderer`).

* `Fresh.value_induction`        what a unit takes over from the values in it, all values have;
* `Compilation.document_induction_of_unit`  what a card takes over from the values in it, the
  document has;
* `Fresh.within`                 the marks of a value ascend, and lie in the segment of its group;
* `Fresh.pairwise_document`      so the marks of the document ascend;
* `Compilation.document_in_source_order`  in quest XML and in outlines.
-/

namespace QuestScript

open MarkedTree

variable {V D : Type}

/-! ## segments of one level -/

/-- the segments of a level lie one after the other -/
theorem Level.Cut.span_lt {blocks : List Block} {l : Level} (h : l.Cut blocks) {g g' : Group}
    (hg : g ∈ l.nonEmpty) (hg' : g' ∈ l.nonEmpty) {a a' : Nat} (ha : g.head? = some a)
    (ha' : g'.head? = some a') (hlt : a < a') {next : Option Nat} {i j : Nat}
    (hi : i ∈ Group.span blocks next l.depth g) (hj : j ∈ Group.span blocks next l.depth g') :
    i < j := by
  obtain ⟨start, stop, hcov⟩ := h.covers hg
  obtain ⟨start', stop', hcov'⟩ := h.covers hg'
  obtain rfl : a = start := Option.some.inj (ha.symm.trans hcov.head)
  obtain rfl : a' = start' := Option.some.inj (ha'.symm.trans hcov'.head)
  have hbefore : ∀ k ∈ g, k < a' := by
    rcases eq_or_rel_of_pairwise h.pairwise hg hg' with rfl | hrel | hrel
    · have := Option.some.inj (ha.symm.trans ha')
      omega
    · exact fun k hk => hrel k hk a' hcov'.start_mem
    · have := hrel a' hcov'.start_mem a hcov.start_mem
      omega
  obtain ⟨b, hb, hd⟩ := hcov'.exists_block hcov'.start_mem
  exact (hcov.span_lt hi hb hd hbefore).trans_le (hcov'.mem_span.mp hj).1

/-! ## induction over the values of a render -/

namespace Compilation.Fresh

section
variable {r : Renderer V D} {blocks : List Block} {c : Compilation V D}

/-- a value among the members of a segment is that of a group of the next depth -/
theorem group_of_member (h : c.Fresh r blocks) (l : Level) (g : Group) {m : Member V}
    (hm : m ∈ (Segment.ofValues r blocks c.value? (c.table.nextDepth? l.depth) l.depth g).members)
    {v : V} (hv : m.value? = some v) :
    c.value? m.id = some v ∧ m.id ∈ Group.span blocks (c.table.nextDepth? l.depth) l.depth g ∧
      ∃ l' ∈ c.table, c.table.nextDepth? l.depth = some l'.depth ∧
        ∃ g' ∈ l'.nonEmpty, g'.head? = some m.id := by
  obtain ⟨id, hid, hmember⟩ := List.mem_filterMap.mp hm
  obtain ⟨b, hb, ⟨_, rfl⟩ | ⟨_, hnext, w, hw, rfl⟩⟩ := memberAt_eq_some.mp hmember
  · cases hv
  · obtain rfl : w = v := Option.some.inj hv
    have hanchor := h.value?_isSome.mp (Option.isSome_iff_exists.mpr ⟨w, hw⟩)
    obtain ⟨l', hl', g', hg', hhead⟩ := GroupTable.Over.mem_anchors.mp hanchor
    obtain ⟨_, _, hcov⟩ := (h.table_over.levels l' hl').covers hg'
    have hd := hcov.indent_eq (List.mem_of_head? hhead) hb
    exact ⟨hw, hid, l', hl', hd ▸ hnext.symm, g', hg', hhead⟩

/-- the value of a segment is what the renderer made of its unit -/
theorem value_eq (h : c.Fresh r blocks) {s : Segment V} (hs : s ∈ c.segments) {kind : LineKind}
    {u : RenderUnit V} {v : V} {log : List Diagnostic} (hout : s.outcome = .rendered kind u v log) :
    v = (r.unit kind u).1 := by
  obtain ⟨kind', u', hout'⟩ := h.exists_unit hs
  obtain ⟨rfl, rfl, hv, _⟩ := Outcome.rendered.inj (hout.symm.trans hout')
  exact hv

/-- a value is that of a unit, whose members are some of those of a segment -/
theorem exists_unit_of_value (h : c.Fresh r blocks) {id : Nat} {v : V} (hv : c.value? id = some v) :
    ∃ l ∈ c.table, ∃ g ∈ l.nonEmpty, g.head? = some id ∧ ∃ u : RenderUnit V, u.anchorId = id ∧
      blocks[id]? = some u.anchor ∧ (r.unit u.anchor.kind u).1 = v ∧ u.members.Sublist
        (Segment.ofValues r blocks c.value? (c.table.nextDepth? l.depth) l.depth g).members := by
  obtain ⟨l, hl, g, hg, hhead⟩ := GroupTable.Over.mem_anchors.mp
    (h.value?_isSome.mp (Option.isSome_iff_exists.mpr ⟨v, hv⟩))
  obtain ⟨start, stop, hcov⟩ := (h.table_over.levels l hl).covers hg
  obtain rfl : id = start := Option.some.inj (hhead.symm.trans hcov.head)
  obtain ⟨_, _, w, _, hout, _, hw⟩ := h.kept _ (h.mem_segments.mpr ⟨l, hl, g, hg, rfl⟩)
  obtain ⟨b, rest, hb, hmembers, hout'⟩ := Segment.ofValues_outcome r hcov c.value?
    (c.table.nextDepth? l.depth)
  obtain ⟨_, rfl, hvalue, _⟩ := Outcome.rendered.inj (hout'.symm.trans hout)
  rw [hv, ← hvalue, Option.some.injEq] at hw
  refine ⟨l, hl, g, hg, hhead, ⟨id, b, if b.kind = .root then [] else rest⟩, rfl, hb, hw.symm, ?_⟩
  rw [hmembers]
  refine List.Sublist.cons_cons _ ?_
  dsimp only
  split
  · exact List.nil_sublist _
  · exact List.Sublist.refl _

/-- **induction over the values of a render**: a property that the value of a unit has as long as the
values in the unit have it -/
theorem value_induction (h : c.Fresh r blocks) {P : Nat → V → Prop}
    (step : ∀ l ∈ c.table, ∀ g ∈ l.nonEmpty, ∀ u : RenderUnit V,
      g.head? = some u.anchorId → blocks[u.anchorId]? = some u.anchor →
      u.members.Sublist
        (Segment.ofValues r blocks c.value? (c.table.nextDepth? l.depth) l.depth g).members →
      (∀ m ∈ u.rest, ∀ v, m.value? = some v → P m.id v) →
      P u.anchorId (r.unit u.anchor.kind u).1) :
    ∀ id v, c.value? id = some v → P id v := by
  intro id v hv
  -- the values in a unit stand on later blocks than its anchor
  induction hk : blocks.length - id using Nat.strongRecOn generalizing id v with
  | ind k ih =>
    obtain ⟨l, hl, g, hg, hhead, u, rfl, hb, rfl, hsub⟩ := h.exists_unit_of_value hv
    obtain ⟨_, _, hcov⟩ := (h.table_over.levels l hl).covers hg
    have hids := (Segment.pairwise_ids r hcov c.value? (c.table.nextDepth? l.depth)).sublist
      (hsub.map Member.id)
    refine step l hl g hg u hhead hb hsub fun m hm w hw => ?_
    have hlt : u.anchorId < m.id := List.rel_of_pairwise_cons hids (List.mem_map_of_mem hm)
    obtain ⟨hvalue, hspan, _⟩ := h.group_of_member l g (hsub.subset (List.mem_cons_of_mem _ hm)) hw
    have := hcov.lt_length_of_mem_span hspan
    exact ih (blocks.length - m.id) (by omega) m.id w hvalue rfl

end

end Compilation.Fresh

/-- **induction over the cards of a document**: a property that the card of a unit has as long as the
values in it have it, and that stays when cards are put after a quest.  The blocks of the unit are
among those of the document. -/
theorem Compilation.document_induction_of_unit (f : CardFormat V) (blocks : List Block)
    {P : V → Prop}
    (write : ∀ u : RenderUnit V, (∀ id b, .own id b ∈ u.members → b ∈ blocks) →
      (∀ v ∈ (Card.ofUnit u.anchor.kind u).1.placed, P v) →
        P (f.write (Card.ofUnit u.anchor.kind u).1))
    (untitled : P (f.quest .untitled))
    (isQuest : ∀ header, f.isQuest (f.quest header) = true)
    (document : ∀ q vs, f.isQuest q = true → P q → (∀ v ∈ vs, P v) → P (f.document q vs)) :
    P (ofBlocks f.renderer blocks).document := by
  have hvalues : ∀ id v, (ofBlocks f.renderer blocks).value? id = some v → P v := by
    refine (fresh f.renderer blocks).value_induction fun _ _ _ _ u _ _ hsub ih => ?_
    obtain ⟨kept, hkept, hplaced, _⟩ := Card.exists_kept u.anchor.kind u
    show P (f.unit u.anchor.kind u).1
    rw [CardFormat.unit_eq]
    refine write u (fun id b hb => ?_) fun v hv => ?_
    · obtain ⟨_, _, hmember⟩ := List.mem_filterMap.mp (hsub.subset hb)
      obtain ⟨b', hb', ⟨_, heq⟩ | ⟨_, _, _, _, heq⟩⟩ := memberAt_eq_some.mp hmember
      · rw [(Member.own.inj heq).2]
        exact List.mem_of_getElem? hb'
      · cases heq
    · rw [hplaced] at hv
      obtain ⟨m, hm, hv⟩ := List.mem_filterMap.mp hv
      exact ih m (hkept.subset hm) v hv
  have hroots : ∀ v ∈ (ofBlocks f.renderer blocks).roots, P v := by
    intro v hv
    obtain ⟨id, _, hv⟩ := List.mem_filterMap.mp hv
    exact hvalues id v hv
  show P (f.assemble (ofBlocks f.renderer blocks).roots).1
  unfold CardFormat.assemble
  cases hvs : (ofBlocks f.renderer blocks).roots with
  | nil => exact document _ [] (isQuest _) untitled fun _ h => absurd h List.not_mem_nil
  | cons v vs =>
    rw [hvs] at hroots
    dsimp only
    split
    · next hq =>
      exact document v vs hq (hroots v List.mem_cons_self) fun w hw =>
        hroots w (List.mem_cons_of_mem _ hw)
    · exact document _ (v :: vs) (isQuest _) untitled hroots

theorem Compilation.document_induction (f : CardFormat V) (blocks : List Block) {P : V → Prop}
    (write : ∀ card, (∀ v ∈ card.placed, P v) → P (f.write card))
    (isQuest : ∀ header, f.isQuest (f.quest header) = true)
    (document : ∀ q vs, f.isQuest q = true → P q → (∀ v ∈ vs, P v) → P (f.document q vs)) :
    P (ofBlocks f.renderer blocks).document :=
  document_induction_of_unit f blocks (fun _ _ => write _)
    (write (.quest .untitled) fun _ h => absurd h List.not_mem_nil) isQuest document

/-! ## marks -/

/-- the marks of a tree ascend, and they are among `ids` -/
structure MarkedTree.Within (ids : List Nat) (t : MarkedTree V) : Prop where
  ascending : t.marks.Pairwise (· < ·)
  subset : t.marks ⊆ ids

namespace Compilation.Fresh

variable {f : CardFormat V} {T : f.Trees} {blocks : List Block}
  {m : Compilation (MarkedTree V) (MarkedTree V)}

/-- the marks of the values of one depth ascend, if the values are taken in the order of their
anchors -/
theorem pairwise_marks (h : m.Fresh T.renderer blocks) {d : Option Nat} {ids : List Nat}
    (hids : ids.Pairwise (· < ·))
    (hw : ∀ a ∈ ids, ∃ l ∈ m.table, d = some l.depth ∧ ∃ g ∈ l.nonEmpty, g.head? = some a ∧
      ∀ t, m.value? a = some t →
        t.Within (Group.span blocks (m.table.nextDepth? l.depth) l.depth g)) :
    ((ids.filterMap m.value?).flatMap marks).Pairwise (· < ·) := by
  rw [List.pairwise_flatMap]
  constructor
  · intro t ht
    obtain ⟨a, ha, hv⟩ := List.mem_filterMap.mp ht
    obtain ⟨_, _, _, _, _, _, hwithin⟩ := hw a ha
    exact (hwithin t hv).ascending
  · rw [List.pairwise_filterMap]
    refine hids.imp_of_mem fun {a a'} ha ha' hlt t ht t' ht' i hi j hj => ?_
    obtain ⟨l, hl, hd, g, hg, hhead, hwithin⟩ := hw a ha
    obtain ⟨l', hl', hd', g', hg', hhead', hwithin'⟩ := hw a' ha'
    obtain rfl := h.table_over.level_eq hl hl' (Option.some.inj (hd.symm.trans hd'))
    exact (h.table_over.levels l hl).span_lt hg hg' hhead hhead' hlt
      ((hwithin t ht).subset hi) ((hwithin' t' ht').subset hj)

section
variable (h : m.Fresh T.renderer blocks) {l : Level} (hl : l ∈ m.table) {g : Group}
  (hg : g ∈ l.nonEmpty) (kind : LineKind) {u : RenderUnit (MarkedTree V)}
  (hsub : u.members.Sublist (Segment.ofValues T.renderer blocks m.value?
    (m.table.nextDepth? l.depth) l.depth g).members)
include h hl hg hsub

/-- the values in a card, by the ids of their anchors -/
theorem exists_placed_ids : ∃ ids : List Nat, (u.anchorId :: ids).Pairwise (· < ·) ∧
    (Card.ofUnit kind u).1.placed = ids.filterMap m.value? ∧
    ∀ a ∈ ids, ∃ x ∈ u.rest, ∃ t, x.value? = some t ∧ x.id = a := by
  obtain ⟨_, _, hcov⟩ := (h.table_over.levels l hl).covers hg
  obtain ⟨kept, hkept, hplaced, _⟩ := Card.exists_kept kind u
  refine ⟨(kept.filter Member.isFolded).map Member.id, ?_, ?_, ?_⟩
  · refine (Segment.pairwise_ids T.renderer hcov m.value? (m.table.nextDepth? l.depth)).sublist ?_
    exact (((List.filter_sublist.trans hkept).map Member.id).cons_cons u.anchorId).trans
      (hsub.map Member.id)
  · rw [hplaced, List.filterMap_map, List.filterMap_filter]
    refine List.filterMap_congr fun x hx => ?_
    cases x with
    | own id b => rfl
    | folded id t =>
      have hmem := hsub.subset (List.mem_cons_of_mem _ (hkept.subset hx))
      exact (h.group_of_member l g hmem rfl).1.symm
  · intro a ha
    obtain ⟨x, hx, rfl⟩ := List.mem_map.mp ha
    obtain ⟨hx, hfolded⟩ := List.mem_filter.mp hx
    cases x with
    | own id b => cases hfolded
    | folded id t => exact ⟨_, hkept.subset hx, t, rfl, rfl⟩

end

/-- **the marks of a value** ascend, and lie in the segment of its group -/
theorem within (h : m.Fresh T.renderer blocks) : ∀ id t, m.value? id = some t →
    ∀ l ∈ m.table, ∀ g ∈ l.nonEmpty, g.head? = some id →
      t.Within (Group.span blocks (m.table.nextDepth? l.depth) l.depth g) := by
  refine h.value_induction ?_
  intro k hk e he u hhead _ hsub ih l hl g hg hhead'
  obtain ⟨rfl, rfl⟩ :=
    h.table_over.group_eq hk hl he hg (List.mem_of_head? hhead) (List.mem_of_head? hhead')
  obtain ⟨start, stop, hcov⟩ := (h.table_over.levels k hk).covers he
  obtain ⟨ids, hids, hplaced, hmem⟩ := h.exists_placed_ids hk he u.anchor.kind hsub
  obtain ⟨hafter, hids⟩ := List.pairwise_cons.mp hids
  have hgroup : ∀ a ∈ ids, a ∈ Group.span blocks (m.table.nextDepth? k.depth) k.depth e ∧
      ∃ l ∈ m.table, m.table.nextDepth? k.depth = some l.depth ∧
        ∃ g ∈ l.nonEmpty, g.head? = some a ∧ ∀ t, m.value? a = some t →
          t.Within (Group.span blocks (m.table.nextDepth? l.depth) l.depth g) := by
    intro a ha
    obtain ⟨x, hx, t, ht, rfl⟩ := hmem a ha
    obtain ⟨hvalue, hspan, l, hl, hnext, g, hg, hhead⟩ :=
      h.group_of_member k e (hsub.subset (List.mem_cons_of_mem _ hx)) ht
    refine ⟨hspan, l, hl, hnext, g, hg, hhead, fun t' ht' => ?_⟩
    obtain rfl := Option.some.inj (hvalue.symm.trans ht')
    exact ih x hx t ht l hl g hg hhead
  have hmarks : ∀ i ∈ (ids.filterMap m.value?).flatMap marks, u.anchorId < i ∧
      i ∈ Group.span blocks (m.table.nextDepth? k.depth) k.depth e := by
    intro i hi
    obtain ⟨t, ht, hi⟩ := List.mem_flatMap.mp hi
    obtain ⟨a, ha, ht⟩ := List.mem_filterMap.mp ht
    obtain ⟨hspan, l, hl, hnext, g, hg, hhead, hwithin⟩ := hgroup a ha
    have had := (h.table_over.nextDepth?_eq_some (List.mem_map_of_mem hk)).mp hnext
    obtain ⟨start', stop', hcov'⟩ := (h.table_over.levels l hl).covers hg
    obtain rfl : a = start' := Option.some.inj (hhead.symm.trans hcov'.head)
    have hi := (hwithin t ht).subset hi
    exact ⟨(hafter a ha).trans_le (hcov'.mem_span.mp hi).1,
      hcov.span_subset hcov' had.lt hspan hi⟩
  have heq : (T.renderer.unit u.anchor.kind u).1.marks =
      u.anchorId :: (ids.filterMap m.value?).flatMap marks := by
    rw [T.marks_unit, hplaced]
  refine ⟨?_, ?_⟩
  · rw [heq, List.pairwise_cons]
    exact ⟨fun i hi => (hmarks i hi).1, h.pairwise_marks hids fun a ha => (hgroup a ha).2⟩
  · rw [heq, List.cons_subset]
    exact ⟨hcov.mem_span_of_mem _ (List.mem_of_head? hhead), fun i hi => (hmarks i hi).2⟩

/-- a value is marked with the id of its anchor -/
theorem mark_eq (h : m.Fresh T.renderer blocks) :
    ∀ id t, m.value? id = some t → t.mark = some id := by
  refine h.value_induction fun _ _ _ _ u _ _ _ _ => ?_
  show ((T.marked.unit u.anchor.kind u).1.withMark u.anchorId).mark = _
  cases (T.marked.unit u.anchor.kind u).1
  rfl

theorem stands (h : m.Fresh T.renderer blocks) :
    ∀ id t, m.value? id = some t → t.Stands T.append T.children := by
  refine h.value_induction fun _ _ _ _ u _ _ _ ih => ?_
  obtain ⟨kept, hkept, hplaced, _⟩ := Card.exists_kept u.anchor.kind u
  show ((T.marked.unit u.anchor.kind u).1.withMark u.anchorId).Stands _ _
  rw [CardFormat.unit_eq]
  refine (T.stands_write fun t ht => ?_).withMark _
  rw [hplaced] at ht
  obtain ⟨x, hx, ht⟩ := List.mem_filterMap.mp ht
  exact ih x (hkept.subset hx) t ht

/-- the marks of the document ascend -/
theorem pairwise_document (h : m.Fresh T.renderer blocks) :
    ((m.table.roots.filterMap m.value?).flatMap marks).Pairwise (· < ·) := by
  have hids : m.table.roots.Pairwise (· < ·) := GroupTable.pairwise_roots fun l hl =>
    (h.table_over.levels l hl).pairwise_anchors
  refine h.pairwise_marks (d := m.table.minDepth?) hids ?_
  intro a ha
  obtain ⟨l, hl, hleast, g, hg, hhead⟩ := h.table_over.mem_roots.mp ha
  refine ⟨l, hl, ?_, g, hg, hhead, fun t ht => h.within a t ht l hl g hg hhead⟩
  have hover := h.table_over
  cases htable : m.table with
  | nil =>
    rw [htable] at hl
    cases hl
  | cons k ls =>
    rw [htable] at hl hover
    rw [(hover.depth_le_iff hl).mp hleast]
    rfl

end Compilation.Fresh

/-! ## documents -/

/-- The document of the render `c` is in the order of its source, as is seen from the render `m`
with marks.  Both have the same values and the same document, of which no node is lost; every value
is marked with the id of its anchor; and a walk over the document meets ascending ids. -/
structure CardFormat.Trees.InSourceOrder {f : CardFormat V} (T : f.Trees)
    (m : Compilation (MarkedTree V) (MarkedTree V)) (c : Compilation V V) : Prop where
  value? : ∀ id, c.value? id = (m.value? id).map (erase T.append)
  mark : ∀ id t, m.value? id = some t → t.mark = some id
  document : c.document = m.document.erase T.append
  stands : m.document.Stands T.append T.children
  /-- a walk meets a unit, then the units in the values that are put into its card -/
  unit_marks : ∀ s ∈ m.segments, ∀ kind u t log, s.outcome = .rendered kind u t log →
    t.marks = u.anchorId :: (Card.ofUnit kind u).1.placed.flatMap marks
  document_marks : m.document.marks = m.roots.flatMap marks
  ascending : m.document.marks.Pairwise (· < ·)

namespace Compilation

theorem in_source_order {f : CardFormat V} (T : f.Trees) (blocks : List Block) :
    T.InSourceOrder (ofBlocks T.renderer blocks) (ofBlocks f.renderer blocks) := by
  have h : (ofBlocks T.renderer blocks).Fresh T.renderer blocks := fresh T.renderer blocks
  have hmap := ofBlocks_map T.renderer_maps blocks
  have hmarks : (ofBlocks T.renderer blocks).document.marks =
      (ofBlocks T.renderer blocks).roots.flatMap marks := T.marks_document _
  refine ⟨?_, h.mark_eq, ?_, ?_, ?_, hmarks, ?_⟩
  · intro id
    rw [hmap, value?_map]
  · rw [hmap]
    rfl
  · refine T.stands_document fun t ht => ?_
    obtain ⟨id, _, hv⟩ := List.mem_filterMap.mp ht
    exact h.stands id t hv
  · intro s hs kind u t log hout
    rw [h.value_eq hs hout, T.marks_unit]
  · rw [hmarks]
    exact h.pairwise_document

/-- **Documents are in the order of their source.**  A walk over the document of a render meets the
units of the groups in the order of their first blocks, in quest XML and in outlines. -/
theorem document_in_source_order (blocks : List Block) :
    Xml.trees.InSourceOrder (ofBlocks Xml.trees.renderer blocks)
        (ofBlocks Xml.format.renderer blocks) ∧
      Outline.trees.InSourceOrder (ofBlocks Outline.trees.renderer blocks)
        (ofBlocks Outline.format.renderer blocks) :=
  ⟨in_source_order Xml.trees blocks, in_source_order Outline.trees blocks⟩

/-- the block 1 is attached nowhere, and the block 3 belongs to the unit of the block 0 -/
example : (ofBlocks Outline.trees.renderer [⟨0, ["* on"], 0⟩, ⟨2, [], 1⟩, ⟨1, [], 2⟩, ⟨0, [], 3⟩,
    ⟨0, ["_title_"], 4⟩]).document.marks = [0, 2, 4] := by
  decide

end Compilation

end QuestScript
