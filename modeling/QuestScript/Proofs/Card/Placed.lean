import QuestScript.Proofs.Card.Reading
import QuestScript.Proofs.Render.Taken

/-!
# Content is placed once or reported

In a render of cards, the value of a group below the least depth is put into the card of one other
group, once, or a message names its first block.  The values at the least depth are put into the
document, each once.

To tell values apart, a unit is read with the id of its anchor on every value (`RenderUnit.tagged`);
`Segment.card?` is the card of a segment read so, and `Segment.placed` are the values in it.

* `Segment.placed_sublist`             the values in a card come from the values folded into the segment;
* `Fresh.placed_or_reported`           a value folded into a segment is in the card, or it is reported;
* `Fresh.nodup_placed`                 no value is in two places;
* `Compilation.placed_once_or_reported`  all of it together.
-/

namespace QuestScript

variable {V : Type}

/-! ## cards with the ids of the values -/

def Member.tagged : Member V → Member (Nat × V)
  | .own id b => .own id b
  | @Member.folded _ id b v => @Member.folded _ id b (id, v)

/-- the unit with the id of the anchor on every value -/
def RenderUnit.tagged (u : RenderUnit V) : RenderUnit (Nat × V) :=
  ⟨u.anchorId, u.anchor, u.rest.map Member.tagged⟩

theorem Member.map_snd_tagged (m : Member V) : m.tagged.map Prod.snd = m := by cases m <;> rfl

theorem RenderUnit.map_snd_tagged (u : RenderUnit V) : u.tagged.map Prod.snd = u := by
  have hrest : (u.rest.map Member.tagged).map (Member.map Prod.snd) = u.rest := by
    rw [List.map_map]
    exact List.map_id'' (fun m => m.map_snd_tagged) u.rest
  show (⟨u.anchorId, u.anchor, (u.rest.map Member.tagged).map (Member.map Prod.snd)⟩ :
    RenderUnit V) = u
  rw [hrest]

/-- the values of tagged members are the folded members, by id -/
theorem map_fst_tagged (ms : List (Member V)) :
    ((ms.map Member.tagged).filterMap Member.value?).map Prod.fst =
      (ms.filter Member.isFolded).map Member.id := by
  induction ms with
  | nil => rfl
  | cons m ms ih =>
    cases m with
    | own id b => exact ih
    | folded id v => exact congrArg (id :: ·) ih

namespace Segment

/-- the card of a segment, with the id of the anchor on every value -/
def card? (s : Segment V) : Option (Card (Nat × V)) :=
  match s.outcome with
  | .rendered kind u _ _ => some (Card.ofUnit kind u.tagged).1
  | _ => none

/-- the values in the card of a segment, with the ids of their anchors -/
def placed (s : Segment V) : List (Nat × V) := (s.card?.map Card.placed).getD []

section
variable (f : CardFormat V) {blocks : List Block} {d : Nat} {g : Group} {start stop : Nat}
  (hg : Group.Covers blocks d g start stop) (value : Nat → Option V) (next : Option Nat)
include hg

/-- the segment of a group and its card -/
theorem exists_card : ∃ b rest log, blocks[start]? = some b ∧
    let s := ofValues f.renderer blocks value next d g
    let u : RenderUnit V := ⟨start, b, if b.kind = .root then [] else rest⟩
    s.members = .own start b :: rest ∧ s.card? = some (Card.ofUnit b.kind u.tagged).1 ∧
      log = (Card.ofUnit b.kind u.tagged).2 ∧
      s.outcome =
        .rendered b.kind u (f.write ((Card.ofUnit b.kind u.tagged).1.map Prod.snd)) log := by
  obtain ⟨b, rest, hb, hmembers, hout⟩ := ofValues_outcome f.renderer hg value next
  refine ⟨b, rest, _, hb, hmembers, ?_, rfl, ?_⟩
  · unfold card?
    rw [hout]
  · -- the unit is the tagged one without its tags, and reading does not look at these
    have hread := Card.ofUnit_map (φ := Prod.snd) b.kind
      (RenderUnit.tagged ⟨start, b, if b.kind = .root then [] else rest⟩)
    rw [RenderUnit.map_snd_tagged] at hread
    rw [hout]
    show Outcome.rendered _ _ (f.unit b.kind _).1 (f.unit b.kind _).2 = _
    rw [CardFormat.unit_eq, hread]

/-- **the values in a card** come from the values that are folded into the segment, in their order -/
theorem placed_sublist : let s := ofValues f.renderer blocks value next d g
    (s.placed.map Prod.fst).Sublist s.folded ∧ ∀ x ∈ s.placed, value x.1 = some x.2 := by
  obtain ⟨b, rest, log, _, hmembers, hcard, _, hout⟩ := exists_card f hg value next
  obtain ⟨kept, hsub, hplaced, _⟩ := Card.exists_kept b.kind
    (RenderUnit.tagged ⟨start, b, if b.kind = .root then [] else rest⟩)
  have hrest : (if b.kind = .root then [] else rest).Sublist
      (ofValues f.renderer blocks value next d g).members := by
    rw [hmembers]
    split
    · exact List.nil_sublist _
    · exact List.sublist_cons_self _ _
  have hsub' := (hsub.trans (hrest.map Member.tagged)).filterMap Member.value?
  intro s
  have hs : s.placed = kept.filterMap Member.value? := by
    unfold placed
    rw [hcard, ← hplaced]
    rfl
  rw [hs]
  constructor
  · have hfolded : s.folded = (s.members.filter Member.isFolded).map Member.id := by
      unfold folded
      rw [hout]
    rw [hfolded, ← map_fst_tagged]
    exact hsub'.map Prod.fst
  · intro x hx
    obtain ⟨m', hm', hv⟩ := List.mem_filterMap.mp (hsub'.subset hx)
    obtain ⟨m, hm, rfl⟩ := List.mem_map.mp hm'
    obtain ⟨id, _, hid⟩ := List.mem_filterMap.mp hm
    obtain ⟨b', _, ⟨_, rfl⟩ | ⟨_, _, v, hvalue, rfl⟩⟩ := memberAt_eq_some.mp hid
    · cases hv
    · obtain rfl := Option.some.inj hv
      exact hvalue

theorem nodup_placed :
    ((ofValues f.renderer blocks value next d g).placed.map Prod.fst).Nodup := by
  refine (placed_sublist f hg value next).1.nodup ?_
  have hids := (pairwise_ids f.renderer hg value next).imp Nat.ne_of_lt
  obtain ⟨_, _, _, _, hout⟩ := ofValues_outcome f.renderer hg value next
  unfold folded
  rw [hout]
  exact hids.sublist (List.filter_sublist.map _)

/-- a value that is folded into a segment is in the card, or the renderer or the pass reports it -/
theorem placed_or_reported {a : Nat} :
    let s := ofValues f.renderer blocks value next d g
    a ∈ s.folded → a ∈ s.placed.map Prod.fst ∨
      ∃ m ∈ s.diagnostics, a ∈ m.blocks ∧ (m.code = 423 ∨ m.code = 428 ∨ m.code = 433) := by
  intro s ha
  obtain ⟨b, rest, log, _, hmembers, hcard, hlog, hout⟩ := exists_card f hg value next
  have hmem : ∃ m ∈ rest, m.isFolded ∧ m.id = a := by
    unfold folded at ha
    rw [hout] at ha
    obtain ⟨m, hm, rfl⟩ := List.mem_map.mp ha
    obtain ⟨hm, hf⟩ := List.mem_filter.mp hm
    rw [hmembers] at hm
    rcases List.mem_cons.mp hm with rfl | hm
    · cases hf
    · exact ⟨m, hm, hf, rfl⟩
  obtain ⟨m, hm, hf, rfl⟩ := hmem
  by_cases hkind : b.kind = .root
  · -- a quest header gets its anchor alone, so the pass reports the other members
    refine Or.inr ⟨Problem.manyQuestBlocks.on (s.members.map Member.id), ?_, ?_, Or.inl rfl⟩
    · have hlen : s.members.length ≠ 1 := by
        rw [hmembers, List.length_cons]
        have := List.length_pos_of_mem hm
        omega
      refine List.mem_append_left _ (List.mem_append_right _ ?_)
      rw [hout]
      show _ ∈ if b.kind = .root ∧ s.members.length ≠ 1 then _ else _
      rw [if_pos ⟨hkind, hlen⟩]
      exact List.mem_singleton_self _
    · rw [hmembers]
      exact List.mem_map_of_mem (List.mem_cons_of_mem _ hm)
  · obtain ⟨kept, _, hplaced, hkept⟩ := Card.exists_kept b.kind
      (RenderUnit.tagged ⟨start, b, if b.kind = .root then [] else rest⟩)
    have hm' : m.tagged ∈
        (RenderUnit.tagged ⟨start, b, if b.kind = .root then [] else rest⟩).rest := by
      show m.tagged ∈ (if b.kind = .root then [] else rest).map Member.tagged
      rw [if_neg hkind]
      exact List.mem_map_of_mem hm
    cases m with
    | own id b' => cases hf
    | folded id v =>
      rcases hkept hkind _ hm' rfl with hmem | ⟨e, he, hcode, hid⟩
      · refine Or.inl (List.mem_map.mpr ⟨(id, v), ?_, rfl⟩)
        unfold placed
        rw [hcard]
        show _ ∈ (Card.ofUnit b.kind _).1.placed
        rw [hplaced]
        exact List.mem_filterMap.mpr ⟨_, hmem, rfl⟩
      · refine Or.inr ⟨e, ?_, hid, Or.inr hcode⟩
        refine List.mem_append_right _ ?_
        rw [hout, hlog]
        exact he

end

end Segment

/-! ## a whole render -/

namespace Compilation.Fresh

variable {f : CardFormat V} {blocks : List Block} {c : Compilation V V}

theorem placed_sublist (h : c.Fresh f.renderer blocks) {s : Segment V} (hs : s ∈ c.segments) :
    (s.placed.map Prod.fst).Sublist s.folded ∧ (s.placed.map Prod.fst).Nodup ∧
      ∀ x ∈ s.placed, c.value? x.1 = some x.2 := by
  obtain ⟨l, hl, g, hg, rfl⟩ := h.mem_segments.mp hs
  obtain ⟨_, _, hcov⟩ := (h.table_over.levels l hl).covers hg
  obtain ⟨hsub, hvalue⟩ := Segment.placed_sublist f hcov c.value? (c.table.nextDepth? l.depth)
  exact ⟨hsub, Segment.nodup_placed f hcov _ _, hvalue⟩

/-- a value that is folded into a segment stands on the first block of a group below the least
depth -/
theorem group_of_mem_folded (h : c.Fresh f.renderer blocks) {s : Segment V} (hs : s ∈ c.segments)
    {a : Nat} (ha : a ∈ s.folded) : ∃ l ∈ c.table, (∃ b ∈ blocks, b.indent < l.depth) ∧
      ∃ g ∈ l.nonEmpty, g.head? = some a := by
  have hvalue : (c.value? a).isSome := by
    obtain ⟨l, hl, g, hg, rfl⟩ := h.mem_segments.mp hs
    obtain ⟨_, _, hcov⟩ := (h.table_over.levels l hl).covers hg
    obtain ⟨_, _, _, _, _, hv⟩ := (Segment.mem_folded_ofValues f.renderer hcov _ _).mp ha
    exact hv
  obtain ⟨l, hl, g, hg, hhead⟩ := GroupTable.Over.mem_anchors.mp (h.value?_isSome.mp hvalue)
  exact ⟨l, hl, h.exists_lt_of_mem_folded hl hg hhead hs ha, g, hg, hhead⟩

/-- **no value is in two places**: neither in two cards, nor twice in one, nor in a card and in the
document -/
theorem nodup_placed (h : c.Fresh f.renderer blocks) :
    (c.table.roots ++ c.segments.flatMap fun s => s.placed.map Prod.fst).Nodup := by
  have hroots : c.table.roots.Nodup := (GroupTable.pairwise_roots fun l hl =>
    (h.table_over.levels l hl).pairwise_anchors).imp Nat.ne_of_lt
  have hcards : (c.segments.flatMap fun s => s.placed.map Prod.fst).Nodup := by
    rw [List.nodup_flatMap]
    refine ⟨fun s hs => (h.placed_sublist hs).2.1, ?_⟩
    refine h.nodup_segments.imp_of_mem fun {s s'} hs hs' hne a ha ha' => hne ?_
    have hf := (h.placed_sublist hs).1.subset ha
    obtain ⟨l, hl, _, g, hg, hhead⟩ := h.group_of_mem_folded hs hf
    exact h.eq_of_mem_folded hl hg hhead hs hs' hf ((h.placed_sublist hs').1.subset ha')
  refine List.Nodup.append hroots hcards fun a ha hplaced => ?_
  obtain ⟨k, hk, hleast, e, he, hhead⟩ := h.table_over.mem_roots.mp ha
  obtain ⟨s, hs, ha'⟩ := List.mem_flatMap.mp hplaced
  obtain ⟨l, hl, ⟨b, hb, hlt⟩, g, hg, hhead'⟩ :=
    h.group_of_mem_folded hs ((h.placed_sublist hs).1.subset ha')
  obtain ⟨rfl, _⟩ :=
    h.table_over.group_eq hk hl he hg (List.mem_of_head? hhead) (List.mem_of_head? hhead')
  have := hleast b hb
  omega

end Compilation.Fresh

/-- the document is put together from `vs`: the first of them is the quest, or an untitled quest
stands before them all -/
def CardFormat.Assembles (f : CardFormat V) (vs : List V) (document : V) : Prop :=
  (∃ q rest, vs = q :: rest ∧ f.isQuest q = true ∧ document = f.document q rest) ∨
    (∀ q ∈ vs.head?, f.isQuest q = false) ∧ document = f.document (f.quest .untitled) vs

theorem CardFormat.assembles (f : CardFormat V) (vs : List V) :
    f.Assembles vs (f.assemble vs).1 := by
  cases vs with
  | nil => exact Or.inr ⟨by simp, rfl⟩
  | cons q rest =>
    unfold assemble
    dsimp only
    split
    · next hq => exact Or.inl ⟨q, rest, rfl, hq, rfl⟩
    · next hq => exact Or.inr ⟨by simpa using hq, rfl⟩

namespace Compilation

/-- **Content is placed once or reported.**  The groups are those that `GroupTable.build` cuts the
blocks into.  The value of every group is written from a card.  Below the least depth, the value of a
group is in the card of the segment that it is folded into, in one place, or a message names its first
block; the values of the groups at the least depth are put together to the document, in order; and no
value is in two places. -/
theorem placed_once_or_reported (f : CardFormat V) (blocks : List Block) :
    let c := ofBlocks f.renderer blocks
    c.table = GroupTable.build blocks ∧
    (∀ s ∈ c.segments, ∃ a card, s.group.head? = some a ∧ s.card? = some card ∧
      c.value? a = some (f.write (card.map Prod.snd))) ∧
    (∀ l ∈ c.table, (∃ b ∈ blocks, b.indent < l.depth) → ∀ g ∈ l.nonEmpty, ∀ a, g.head? = some a →
      (∃ s ∈ c.segments, a ∈ s.folded ∧ (s.placed.map Prod.fst).count a = 1 ∧
        ∃ v, c.value? a = some v ∧ (a, v) ∈ s.placed) ∨
      ∃ m ∈ c.diagnostics, a ∈ m.blocks ∧
        (m.code = 423 ∨ m.code = 428 ∨ m.code = 429 ∨ m.code = 433)) ∧
    ∃ anchors : List Nat,
      (∀ id, id ∈ anchors ↔ ∃ l ∈ c.table, (∀ b ∈ blocks, l.depth ≤ b.indent) ∧
        ∃ g ∈ l.nonEmpty, g.head? = some id) ∧
      (∃ values, values.map some = anchors.map c.value? ∧ f.Assembles values c.document) ∧
      (anchors ++ c.segments.flatMap fun s => s.placed.map Prod.fst).Nodup := by
  intro c
  have h : c.Fresh f.renderer blocks := fresh f.renderer blocks
  refine ⟨h.table_eq, ?_, ?_, c.table.roots, fun id => h.table_over.mem_roots,
    ⟨c.roots, roots_eq f.renderer blocks, f.assembles c.roots⟩, h.nodup_placed⟩
  · intro s hs
    obtain ⟨kind, u, v, log, hout, hhead, hv⟩ := h.kept s hs
    obtain ⟨l, hl, g, hg, rfl⟩ := h.mem_segments.mp hs
    obtain ⟨_, _, hcov⟩ := (h.table_over.levels l hl).covers hg
    obtain ⟨b, rest, log', _, _, hcard, _, hout'⟩ := Segment.exists_card f hcov c.value?
      (c.table.nextDepth? l.depth)
    rw [hout'] at hout
    obtain ⟨_, rfl, rfl, _⟩ := Outcome.rendered.inj hout
    exact ⟨_, _, hhead, hcard, hv⟩
  · intro l hl hlt g hg a ha
    by_cases htaken : ∃ s ∈ c.segments, a ∈ s.folded
    · obtain ⟨s, hs, hf⟩ := htaken
      obtain ⟨hsub, hnodup, hvalue⟩ := h.placed_sublist hs
      obtain ⟨k, hk, e, he, hseg⟩ := h.mem_segments.mp hs
      obtain ⟨_, _, hcov⟩ := (h.table_over.levels k hk).covers he
      have hcase := Segment.placed_or_reported f hcov c.value? (c.table.nextDepth? k.depth) (a := a)
      rw [hseg] at hcase
      refine (hcase hf).imp (fun hmem => ?_) ?_
      · obtain ⟨⟨_, v⟩, hx, rfl⟩ := List.mem_map.mp hmem
        exact ⟨s, hs, hf, List.count_eq_one_of_mem hnodup hmem, v, hvalue _ hx, hx⟩
      · rintro ⟨m, hm, hblocks, hcode⟩
        refine ⟨m, ?_, hblocks, by omega⟩
        exact List.mem_append_left _ (List.mem_append_left _ (List.mem_flatMap.mpr ⟨s, hs, hm⟩))
    · have hfree : ∀ s ∈ c.segments, a ∉ s.folded := fun s hs hf => htaken ⟨s, hs, hf⟩
      obtain ⟨_, _, hcov⟩ := (h.table_over.levels l hl).covers hg
      obtain ⟨b, hb, hd⟩ := Block.mem_idsAt.mp ((hcov.mem_iff a).mp (List.mem_of_head? ha)).1
      have hx : (a, l.depth) ∈ c.unattached := (mem_unattached f.renderer blocks).mpr
        ⟨⟨l, hl, hlt, g, hg, ha⟩, hfree, by rw [hb, Option.map_some, hd]⟩
      refine Or.inr ⟨(Problem.unattached l.depth).on [a], ?_, List.mem_singleton_self a,
        Or.inr (Or.inr (Or.inl rfl))⟩
      exact List.mem_append_left _ (List.mem_append_right _ (List.mem_map.mpr ⟨_, hx, rfl⟩))

end Compilation

end QuestScript
