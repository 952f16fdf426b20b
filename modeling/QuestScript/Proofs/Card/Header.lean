import QuestScript.Proofs.Card.Codes
import QuestScript.Proofs.Card.Order
import QuestScript.Proofs.Card.Quests
import QuestScript.Proofs.Render.Heading
import Mathlib.Data.List.Perm.Basic

/-!
# Quest headers in documents

A quest header is a block whose first line starts with `#`.  At depth 0 it becomes a quest node, and
deeper it is reported and gives way to a placeholder.  A document starts with a quest node in any
case: where the first block of the least depth is no quest header at depth 0, an untitled quest
takes its place.

* `Block.startsQuest`, `Block.headsQuest`, `Block.firstLeast?`  the blocks that matter;
* `Fresh.head?_roots`           the first value of a document;
* `Fresh.quests_value`, `Fresh.quests_roots`  the quest nodes in the values;
* `Compilation.perm_indented`   the messages on indented headers;
* `Compilation.HeadedQuests`    what becomes of the quest headers of a list of blocks;
* `Compilation.quest_header_law`  it holds for both formats of documents.
-/

namespace QuestScript

variable {V D : Type}

/-! ## quest headers -/

namespace Block

/-- the block is a quest header, at whatever depth -/
def startsQuest (b : Block) : Bool := b.firstLine?.any Line.isRoot

/-- the block is a quest header at depth 0 -/
def headsQuest (b : Block) : Bool := b.indent = 0 && b.startsQuest

/-- the first of the blocks of the least depth -/
def firstLeast? (blocks : List Block) : Option Block :=
  blocks.find? fun b => blocks.all (b.indent ≤ ·.indent)

theorem kind_eq_root_iff {b : Block} : b.kind = .root ↔ b.startsQuest = true := by
  unfold kind startsQuest
  rw [Line.kind_eq_root_iff]
  cases b.firstLine? with
  | none => exact iff_of_false Bool.false_ne_true Bool.false_ne_true
  | some line => exact Iff.rfl

theorem firstLeast?_eq_none {blocks : List Block} : firstLeast? blocks = none ↔ blocks = [] := by
  refine ⟨fun h => ?_, fun h => h ▸ rfl⟩
  by_contra hne
  obtain ⟨d, hd⟩ : ∃ d, ∃ b ∈ blocks, b.indent = d := ⟨_, _, List.head_mem hne, rfl⟩
  -- the block of the least depth is found
  induction d using Nat.strongRecOn with
  | ind d ih =>
    obtain ⟨b, hb, rfl⟩ := hd
    have hall := List.find?_eq_none.mp h b hb
    simp only [List.all_eq_true, decide_eq_true_iff, not_forall, Nat.not_le] at hall
    obtain ⟨z, hz, hlt⟩ := hall
    exact ih z.indent hlt ⟨z, hz, rfl⟩

theorem isHeader_of_startsQuest {b : Block} (h : b.startsQuest = true) : b.isHeader = true := by
  obtain ⟨line, hline, hroot⟩ := (Option.any_eq_true _ _).mp h
  unfold isHeader
  rw [hline, Option.any_some]
  unfold Line.isHeader
  unfold Line.isRoot at hroot
  rw [hroot, Bool.true_or, Bool.true_or]

theorem headsQuest_iff {b : Block} : b.headsQuest = true ↔ b.indent = 0 ∧ b.kind = .root := by
  unfold headsQuest
  rw [Bool.and_eq_true, decide_eq_true_iff, kind_eq_root_iff]

end Block

/-! ## the values of a render -/

/-- where `ids` has every number that `p` holds of, filtering it is filtering a range -/
theorem perm_filter_range {ids : List Nat} (hnodup : ids.Nodup) {n : Nat} {p : Nat → Bool}
    (h : ∀ id, p id = true → id ∈ ids ∧ id < n) :
    (ids.filter p).Perm ((List.range n).filter p) := by
  refine (List.perm_ext_iff_of_nodup (hnodup.filter _) (List.nodup_range.filter _)).mpr fun id => ?_
  rw [List.mem_filter, List.mem_filter, List.mem_range]
  exact and_congr_left fun hid => iff_of_true (h id hid).1 (h id hid).2

theorem Card.isQuest_ofUnit (u : RenderUnit V) :
    (ofUnit u.anchor.kind u).1.isQuest = u.anchor.headsQuest := by
  rw [Bool.eq_iff_iff, Block.headsQuest_iff]
  cases hkind : u.anchor.kind with
  | root =>
    show (ofQuest u).1.isQuest = true ↔ _
    unfold ofQuest
    split
    · next h => exact iff_of_false Bool.false_ne_true fun h' => by omega
    · next h => exact iff_of_true rfl ⟨by omega, rfl⟩
  | combat => exact iff_of_false Bool.false_ne_true fun h => nomatch h.2
  | trigger => exact iff_of_false Bool.false_ne_true fun h => nomatch h.2
  | narrative => exact iff_of_false Bool.false_ne_true fun h => nomatch h.2

namespace Compilation.Fresh

section
variable {r : Renderer V D} {blocks : List Block} {c : Compilation V D}

/-- a quest header is the first block of its group -/
theorem mem_anchors_of_startsQuest (h : c.Fresh r blocks) {id : Nat} {b : Block}
    (hb : blocks[id]? = some b) (hstarts : b.startsQuest = true) : ∃ l ∈ c.table,
      l.depth = b.indent ∧ ∃ g ∈ l.nonEmpty, g.head? = some id := by
  obtain ⟨l, hl, hd, g, hg, hmem⟩ := h.table_over.exists_group hb
  obtain ⟨start, _, hcov⟩ := (h.table_over.levels l hl).covers hg
  have hheader : blocks[id]?.any Block.isHeader = true := by
    rw [hb, Option.any_some, Block.isHeader_of_startsQuest hstarts]
  obtain rfl := (h.table_over.levels l hl).eq_head_of_header hg hcov.head hmem hheader
  exact ⟨l, hl, hd, g, hg, hcov.head⟩

/-- **the first value of a document** is that of the first block of the least depth -/
theorem head?_roots (h : c.Fresh r blocks) :
    c.table.roots.head?.bind (blocks[·]?) = Block.firstLeast? blocks := by
  have hblock : ∀ id ∈ c.table.roots, ∃ b, blocks[id]? = some b ∧
      ∀ z ∈ blocks, b.indent ≤ z.indent := by
    intro id hid
    obtain ⟨l, hl, hle, g, hg, hhead⟩ := h.table_over.mem_roots.mp hid
    obtain ⟨_, _, hcov⟩ := (h.table_over.levels l hl).covers hg
    obtain ⟨b, hb, hd⟩ := hcov.exists_block (List.mem_of_head? hhead)
    exact ⟨b, hb, hd ▸ hle⟩
  have hleast (b : Block) : blocks.all (b.indent ≤ ·.indent) = true ↔
      ∀ z ∈ blocks, b.indent ≤ z.indent := by
    simp only [List.all_eq_true, decide_eq_true_iff]
  cases hfirst : Block.firstLeast? blocks with
  | none =>
    cases hroots : c.table.roots with
    | nil => rfl
    | cons id ids =>
      obtain ⟨b, hb, hle⟩ := hblock id (hroots ▸ List.mem_cons_self)
      exact absurd ((hleast b).mpr hle) (List.find?_eq_none.mp hfirst b (List.mem_of_getElem? hb))
  | some b =>
    obtain ⟨hle, i, hi, rfl, hbefore⟩ := List.find?_eq_some_iff_getElem.mp hfirst
    have hb : blocks[i]? = some blocks[i] := List.getElem?_eq_getElem hi
    have hle := (hleast _).mp hle
    -- no block before `i` has the least depth, so `i` is the first root and heads its group
    have hfirst : ∀ id ∈ c.table.roots, i ≤ id := by
      intro id hid
      obtain ⟨z, hz, hzle⟩ := hblock id hid
      by_contra hlt
      obtain ⟨_, rfl⟩ := List.getElem?_eq_some_iff.mp hz
      have hnot := hbefore id (by omega)
      rw [(hleast _).mpr hzle] at hnot
      cases hnot
    have hmem : i ∈ c.table.roots := by
      obtain ⟨l, hl, hd, g, hg, hig⟩ := h.table_over.exists_group hb
      obtain ⟨start, _, hcov⟩ := (h.table_over.levels l hl).covers hg
      have hroot : start ∈ c.table.roots :=
        h.table_over.mem_roots.mpr ⟨l, hl, hd ▸ hle, g, hg, hcov.head⟩
      have := hfirst start hroot
      have := ((hcov.mem_iff i).mp hig).2.1
      obtain rfl : start = i := by omega
      exact hroot
    have hsorted : c.table.roots.Pairwise (· < ·) := GroupTable.pairwise_roots fun l hl =>
      (h.table_over.levels l hl).pairwise_anchors
    cases hroots : c.table.roots with
    | nil => rw [hroots] at hmem; cases hmem
    | cons id ids =>
      rw [hroots] at hmem hfirst hsorted
      have hge := hfirst id List.mem_cons_self
      rcases List.mem_cons.mp hmem with rfl | hids
      · exact hb
      · have := List.rel_of_pairwise_cons hsorted hids
        omega

end

section
variable {f : CardFormat V} {nodes : V → List V} (hf : f.CountsQuests nodes)
  {blocks : List Block} {c : Compilation V V} (h : c.Fresh f.renderer blocks)
include hf h

/-- the values in the unit of a group are deeper, so there is no quest node in them -/
theorem quests_value : ∀ id v, c.value? id = some v → ∀ b, blocks[id]? = some b →
    f.isQuest v = b.headsQuest ∧ (nodes v).countP f.isQuest = if b.headsQuest then 1 else 0 := by
  refine h.value_induction ?_
  intro l hl g hg u hhead hb hsub ih b hb'
  obtain rfl : u.anchor = b := Option.some.inj (hb.symm.trans hb')
  have hdeep : ((Card.ofUnit u.anchor.kind u).1.placed.flatMap nodes).countP f.isQuest = 0 := by
    rw [List.countP_eq_zero]
    intro n hn
    obtain ⟨w, hw, hn⟩ := List.mem_flatMap.mp hn
    obtain ⟨kept, hkept, hplaced, _⟩ := Card.exists_kept u.anchor.kind u
    rw [hplaced] at hw
    obtain ⟨m, hm, hv⟩ := List.mem_filterMap.mp hw
    have hm := hkept.subset hm
    obtain ⟨_, _, l', hl', hnext, g', hg', hhead'⟩ :=
      h.group_of_member l g (hsub.subset (List.mem_cons_of_mem _ hm)) hv
    obtain ⟨_, _, hcov⟩ := (h.table_over.levels l' hl').covers hg'
    obtain ⟨z, hz, hd⟩ := hcov.exists_block (List.mem_of_head? hhead')
    have hlt := ((h.table_over.nextDepth?_eq_some (List.mem_map_of_mem hl)).mp hnext).lt
    have hheads : ¬z.headsQuest = true := fun hheads => by
      have := (Block.headsQuest_iff.mp hheads).1
      omega
    have hzero := (ih m hm w hv z hz).2
    rw [if_neg hheads] at hzero
    exact List.countP_eq_zero.mp hzero n hn
  show f.isQuest (f.unit u.anchor.kind u).1 = _ ∧ (nodes (f.unit u.anchor.kind u).1).countP _ = _
  rw [CardFormat.unit_eq, hf.isQuest_write, hf.write, hdeep, Card.isQuest_ofUnit]
  exact ⟨rfl, rfl⟩

/-- **the quest nodes at the least depth** are those of the quest headers at depth 0 -/
theorem quests_roots : ((c.table.roots.filterMap c.value?).flatMap nodes).countP f.isQuest =
    blocks.countP Block.headsQuest := by
  have hcount : ∀ ids : List Nat, (∀ id ∈ ids, id ∈ c.table.roots) →
      ((ids.filterMap c.value?).flatMap nodes).countP f.isQuest =
        ids.countP fun id => blocks[id]?.any Block.headsQuest := by
    intro ids
    induction ids with
    | nil => intro _; rfl
    | cons id ids ih =>
      intro hids
      obtain ⟨hid, hids⟩ := List.forall_mem_cons.mp hids
      obtain ⟨l, hl, _, g, hg, hhead⟩ := h.table_over.mem_roots.mp hid
      obtain ⟨_, _, hcov⟩ := (h.table_over.levels l hl).covers hg
      obtain ⟨b, hb, _⟩ := hcov.exists_block (List.mem_of_head? hhead)
      obtain ⟨v, hv⟩ := Option.isSome_iff_exists.mp
        (h.value?_isSome.mpr (GroupTable.Over.mem_anchors.mpr ⟨l, hl, g, hg, hhead⟩))
      rw [List.filterMap_cons_some hv, List.flatMap_cons, List.countP_append, ih hids,
        (h.quests_value hf id v hv b hb).2, List.countP_cons, hb, Option.any_some, Nat.add_comm]
  have hroots : (c.table.roots.filter fun id => blocks[id]?.any Block.headsQuest).Perm
      ((List.range blocks.length).filter fun id => blocks[id]?.any Block.headsQuest) := by
    have hnodup : c.table.roots.Nodup := (GroupTable.pairwise_roots fun l hl =>
      (h.table_over.levels l hl).pairwise_anchors).imp Nat.ne_of_lt
    refine perm_filter_range hnodup fun id hheads => ?_
    obtain ⟨b, hb, hheads⟩ := (Option.any_eq_true _ _).mp hheads
    refine ⟨?_, (List.getElem?_eq_some_iff.mp hb).1⟩
    obtain ⟨hzero, hkind⟩ := Block.headsQuest_iff.mp hheads
    obtain ⟨l, hl, hd, hg⟩ := h.mem_anchors_of_startsQuest hb (Block.kind_eq_root_iff.mp hkind)
    exact h.table_over.mem_roots.mpr ⟨l, hl, fun z _ => by omega, hg⟩
  have hblocks : blocks.countP Block.headsQuest =
      (List.range blocks.length).countP fun id => blocks[id]?.any Block.headsQuest := by
    have hmap : blocks.map some = (List.range blocks.length).map (blocks[·]?) :=
      List.ext_getElem (by simp) (by simp)
    calc blocks.countP Block.headsQuest
        = (blocks.map some).countP (Option.any Block.headsQuest) := by
          rw [List.countP_map]
          rfl
      _ = ((List.range blocks.length).map (blocks[·]?)).countP (Option.any Block.headsQuest) := by
          rw [hmap]
      _ = _ := List.countP_map
  rw [hcount _ fun _ hid => hid, hblocks, List.countP_eq_length_filter,
    List.countP_eq_length_filter, hroots.length_eq]

end

end Compilation.Fresh

/-! ## the messages -/

/-- the message 425 is that of the document on a missing quest header -/
theorem CardFormat.filter_missing (f : CardFormat V) (roots : List V) :
    (f.assemble roots).2.filter (·.code = 425) =
      if roots.head?.map f.isQuest = some false then [Problem.missingQuest.on []] else [] := by
  unfold assemble
  cases roots with
  | nil => rfl
  | cons first rest =>
    rw [List.head?_cons, Option.map_some]
    cases hq : f.isQuest first with
    | true => simp [hq]
    | false => simp [hq, Problem.on, Problem.code]

theorem CardFormat.filter_indented_assemble (f : CardFormat V) (roots : List V) :
    (f.assemble roots).2.filter (·.code = 432) = [] := by
  rw [List.filter_eq_nil_iff]
  intro d hd
  rw [mem_assemble hd]
  decide

namespace Compilation

/-- the messages of a number that only the renderer uses -/
theorem filter_diagnostics (f : CardFormat V) (blocks : List Block) {n : Nat} (h423 : n ≠ 423)
    (h429 : n ≠ 429) : (ofBlocks f.renderer blocks).diagnostics.filter (·.code = n) =
      (ofBlocks f.renderer blocks).segments.flatMap (fun s => s.outcome.log.filter (·.code = n)) ++
        (f.assemble (ofBlocks f.renderer blocks).roots).2.filter (·.code = n) := by
  have h := fresh f.renderer blocks
  let c := ofBlocks f.renderer blocks
  let warnings := c.unattached.map fun x => (Problem.unattached x.2).on [x.1]
  have hwarnings : warnings.filter (·.code = n) = [] := by
    rw [List.filter_eq_nil_iff]
    intro m hm hcode
    obtain ⟨x, _, rfl⟩ := List.mem_map.mp hm
    exact h429 (of_decide_eq_true hcode).symm
  have hnotices : ∀ s ∈ c.segments, s.notices.filter (·.code = n) = [] := by
    intro s hs
    rw [List.filter_eq_nil_iff]
    intro m hm hcode
    rw [h.notices_segment hs m hm] at hcode
    exact h423 (of_decide_eq_true hcode).symm
  show (c.segments.flatMap Segment.diagnostics ++ warnings ++ (f.assemble c.roots).2).filter _ = _
  rw [List.filter_append, List.filter_append, hwarnings, List.append_nil, List.filter_flatMap]
  refine congrArg (· ++ _) (List.flatMap_congr fun s hs => ?_)
  show (s.notices ++ s.outcome.log).filter _ = _
  rw [List.filter_append, hnotices s hs, List.nil_append]

/-- the segment of a group tells of its quest header, if that is indented -/
theorem filter_log (f : CardFormat V) {blocks : List Block} {s : Segment V}
    (hs : s ∈ (ofBlocks f.renderer blocks).segments) :
    ∃ a b, s.group.head? = some a ∧ blocks[a]? = some b ∧
      s.outcome.log.filter (·.code = 425) = [] ∧
      s.outcome.log.filter (·.code = 432) =
        if 0 < b.indent ∧ b.startsQuest then [Problem.indentedQuest.on [a]] else [] := by
  obtain ⟨pre, post, hsegments⟩ := List.append_of_mem hs
  obtain ⟨kind, u, hout, hcontract⟩ := exists_contract f.renderer hsegments
  have hlog : s.outcome.log = (Card.ofUnit kind u).2 := by
    rw [hout]
    show (f.unit kind u).2 = _
    rw [CardFormat.unit_eq]
  have hkind : kind = .root ↔ u.anchor.startsQuest = true := by
    rw [← Block.kind_eq_root_iff]
    exact Eq.congr_left hcontract.kind_eq
  refine ⟨u.anchorId, u.anchor, hcontract.head, hcontract.anchor_eq.2, ?_, ?_⟩
  · rw [hlog]
    exact Card.filter_of_not_mem_codes (by decide) (by decide) kind u
  · rw [hlog, Card.filter_indented]
    simp only [hkind, and_comm]

/-- **the message 432** tells of every quest header that is indented, and of that alone -/
theorem perm_indented (f : CardFormat V) (blocks : List Block) :
    ((ofBlocks f.renderer blocks).diagnostics.filter (·.code = 432)).Perm
      (((List.range blocks.length).filter fun id =>
        blocks[id]?.any fun b => 0 < b.indent && b.startsQuest).map fun id =>
          Problem.indentedQuest.on [id]) := by
  have h := fresh f.renderer blocks
  let c := ofBlocks f.renderer blocks
  let indented := fun id : Nat => blocks[id]?.any fun b => 0 < b.indent && b.startsQuest
  let message := fun id : Nat => Problem.indentedQuest.on [id]
  let anchors := c.segments.filterMap (·.group.head?)
  have hmessages : c.segments.flatMap (fun s => s.outcome.log.filter (·.code = 432)) =
      (anchors.filter indented).map message := by
    show _ = (List.filter indented (c.segments.filterMap _)).map message
    rw [List.filterMap_eq_flatMap_toList, List.filter_flatMap, List.map_flatMap]
    refine List.flatMap_congr fun s hs => ?_
    obtain ⟨a, b, hhead, hb, _, hlog⟩ := filter_log f hs
    have hindented : indented a = true ↔ 0 < b.indent ∧ b.startsQuest = true := by
      show blocks[a]?.any _ = true ↔ _
      rw [hb, Option.any_some, Bool.and_eq_true, decide_eq_true_iff]
    rw [hlog, hhead]
    show _ = (List.filter indented [a]).map message
    split
    · next h =>
      rw [List.filter_cons_of_pos (hindented.mpr h)]
      rfl
    · next h =>
      rw [List.filter_cons_of_neg fun h' => h (hindented.mp h')]
      rfl
  have hnodup : anchors.Nodup := by
    show (c.segments.filterMap _).Pairwise _
    rw [List.pairwise_filterMap]
    refine h.nodup_segments.imp_of_mem ?_
    rintro s s' hs hs' hne a ha _ ha' rfl
    exact hne (h.segment_eq hs hs' (List.mem_of_head? ha) (List.mem_of_head? ha'))
  rw [filter_diagnostics f blocks (by decide) (by decide), f.filter_indented_assemble,
    List.append_nil, hmessages]
  refine List.Perm.map _ (perm_filter_range hnodup fun id hindented => ?_)
  obtain ⟨b, hb, hindented⟩ := (Option.any_eq_true _ _).mp hindented
  refine ⟨?_, (List.getElem?_eq_some_iff.mp hb).1⟩
  obtain ⟨l, hl, _, g, hg, hhead⟩ :=
    h.mem_anchors_of_startsQuest hb ((Bool.and_eq_true _ _).mp hindented).2
  exact List.mem_filterMap.mpr ⟨_, h.mem_segments.mpr ⟨l, hl, g, hg, rfl⟩, hhead⟩

/-! ## the law -/

/-- the first value at the least depth is a quest just if its block is a quest header at depth 0 -/
theorem isQuest_head?_roots {f : CardFormat V} {nodes : V → List V} (hf : f.CountsQuests nodes)
    (blocks : List Block) :
    (ofBlocks f.renderer blocks).roots.head?.map f.isQuest =
      (Block.firstLeast? blocks).map Block.headsQuest := by
  have h := fresh f.renderer blocks
  have hroots := roots_eq f.renderer blocks
  rw [← h.head?_roots]
  cases hids : (ofBlocks f.renderer blocks).table.roots with
  | nil =>
    rw [hids, List.map_nil, List.map_eq_nil_iff] at hroots
    rw [hroots]
    rfl
  | cons id ids =>
    obtain ⟨l, hl, _, g, hg, hhead⟩ := h.table_over.mem_roots.mp (hids ▸ List.mem_cons_self)
    obtain ⟨_, _, hcov⟩ := (h.table_over.levels l hl).covers hg
    obtain ⟨b, hb, _⟩ := hcov.exists_block (List.mem_of_head? hhead)
    cases hvalues : (ofBlocks f.renderer blocks).roots with
    | nil => rw [hvalues, hids] at hroots; cases hroots
    | cons v vs =>
      rw [hvalues, hids, List.map_cons, List.map_cons] at hroots
      have hv := (List.cons.inj hroots).1.symm
      rw [List.head?_cons, Option.map_some, (h.quests_value hf id v hv b hb).1, List.head?_cons,
        Option.bind_some, hb, Option.map_some]

/-- what becomes of the quest headers of a list of blocks in the render `c`, where `nodes` are the
nodes of a document -/
structure HeadedQuests (f : CardFormat V) (nodes : V → List V) (blocks : List Block)
    (c : Compilation V V) : Prop where
  root : f.isQuest c.document = true
  missing : c.diagnostics.filter (·.code = 425) =
    if (Block.firstLeast? blocks).map Block.headsQuest = some false then
      [Problem.missingQuest.on []] else []
  indented : (c.diagnostics.filter (·.code = 432)).Perm
    (((List.range blocks.length).filter fun id =>
      blocks[id]?.any fun b => 0 < b.indent && b.startsQuest).map fun id =>
        Problem.indentedQuest.on [id])
  quests : (nodes c.document).countP f.isQuest = blocks.countP Block.headsQuest +
    if (∃ m ∈ c.diagnostics, m.code = 425) ∨ blocks = [] then 1 else 0

theorem headedQuests {f : CardFormat V} {nodes : V → List V} (hf : f.CountsQuests nodes)
    (blocks : List Block) : HeadedQuests f nodes blocks (ofBlocks f.renderer blocks) := by
  have h := fresh f.renderer blocks
  let c := ofBlocks f.renderer blocks
  have hfirst := isQuest_head?_roots hf blocks
  have hmissing : c.diagnostics.filter (·.code = 425) =
      if (Block.firstLeast? blocks).map Block.headsQuest = some false then
        [Problem.missingQuest.on []] else [] := by
    have hlogs : c.segments.flatMap (fun s => s.outcome.log.filter (·.code = 425)) = [] := by
      rw [List.flatMap_eq_nil_iff]
      intro s hs
      obtain ⟨_, _, _, _, hlog, _⟩ := filter_log f hs
      exact hlog
    rw [filter_diagnostics f blocks (by decide) (by decide), hlogs, List.nil_append,
      f.filter_missing, hfirst]
  have hexists : (∃ m ∈ c.diagnostics, m.code = 425) ↔
      (Block.firstLeast? blocks).map Block.headsQuest = some false := by
    have hnil : (∃ m ∈ c.diagnostics, m.code = 425) ↔ c.diagnostics.filter (·.code = 425) ≠ [] := by
      simp [List.filter_eq_nil_iff]
    rw [hnil, hmissing]
    split
    · next hf => exact iff_of_true (List.cons_ne_nil _ _) hf
    · next hf => exact iff_of_false (fun h => h rfl) hf
  have hnone : ((∃ m ∈ c.diagnostics, m.code = 425) ∨ blocks = []) ↔
      (Block.firstLeast? blocks).map Block.headsQuest ≠ some true := by
    rw [hexists, ← Block.firstLeast?_eq_none]
    cases hb : Block.firstLeast? blocks with
    | none => simp
    | some b => simp
  have hroots : (c.roots.flatMap nodes).countP f.isQuest = blocks.countP Block.headsQuest :=
    h.quests_roots hf
  refine ⟨hf.isQuest_assemble c.roots, hmissing, perm_indented f blocks, ?_⟩
  show (nodes (f.assemble c.roots).1).countP f.isQuest = _ + if _ then 1 else 0
  rw [hf.assemble, hroots, hfirst, if_congr hnone rfl rfl, ite_not]

/-- **The law of quest headers.**  In both formats, the document of a script is a quest.  The
message 425 is given just if there is a first block of the least depth and it is no quest header at
depth 0, and it is given once.  The message 432 tells of every quest header that is deeper, once and
of that alone.  The document has one quest node for every quest header at depth 0, and one more if
425 was given or there is no block. -/
theorem quest_header_law (source : Text) :
    let blocks := Block.ofSource source
    HeadedQuests Xml.format XmlNode.nodes blocks (ofSource Xml.format.renderer source) ∧
      HeadedQuests Outline.format OutlineNode.nodes blocks
        (ofSource Outline.format.renderer source) :=
  ⟨headedQuests Xml.countsQuests _, headedQuests Outline.countsQuests _⟩

end Compilation

end QuestScript
