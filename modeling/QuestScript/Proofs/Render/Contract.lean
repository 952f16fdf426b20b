import QuestScript.Proofs.Render.Again
import QuestScript.Proofs.Group.Owner
import QuestScript.Proofs.Line

/-!
# What a renderer may rely on

In a render of fresh blocks the renderer is called once a group.  At the call the blocks of the
group are seen, and each value in the unit stands on the first block of a deeper group that was
rendered before.

* `Segment.marked`               the cells of a segment as the renderer finds them;
* `Segment.exists_of_value`      a segment puts at most its own value on a block;
* `Pass.Steps.exists_of_value`   so each value in a pass was made by a segment of it;
* `Segment.Contract`             what holds at a call;
* `Compilation.renderer_contract`  it holds at every call of a render.
-/

namespace QuestScript

variable {V D : Type}

/-! ## the cells at a call -/

namespace Segment

/-- the cells as the renderer finds them: the blocks of the segment are marked as seen -/
def marked (s : Segment V) (cells : List (Cell V)) : List (Cell V) :=
  cells.mapIdx fun id c => ⟨c.block,
    match c.state with
    | .unset => if id ∈ s.members.map Member.id then .seen else .unset
    | state => state⟩

section
variable {s : Segment V} {cells : List (Cell V)} {id : Nat} {b : Block} {v : V}

theorem marked_unset (hc : cells[id]? = some ⟨b, .unset⟩) (hid : id ∈ s.members.map Member.id) :
    (s.marked cells)[id]? = some ⟨b, .seen⟩ := by
  unfold marked
  rw [List.getElem?_mapIdx, hc]
  simp [hid]

theorem marked_value (hc : cells[id]? = some ⟨b, .value v⟩) :
    (s.marked cells)[id]? = some ⟨b, .value v⟩ := by
  unfold marked
  rw [List.getElem?_mapIdx, hc]
  rfl

/-- after the call, the value goes on the anchor -/
theorem getElem?_apply_marked {kind : LineKind} {u : RenderUnit V} {log : List Diagnostic}
    (h : s.outcome = .rendered kind u v log) (id : Nat) :
    (s.apply cells)[id]? = (s.marked cells)[id]?.map fun c =>
      if id = u.anchorId then ⟨c.block, .value v⟩ else c := by
  rw [getElem?_apply]
  unfold marked
  rw [List.getElem?_mapIdx, Option.map_map]
  congr 1
  funext c
  by_cases hid : id = u.anchorId
  · subst hid
    simp [stateAfter_anchor h]
  · cases hs : c.state with
    | unset => simp [stateAfter_unset h hid, hid, hs]
    | seen => simp [stateAfter_of_ne h hid, hid, hs]
    | value w => simp [stateAfter_of_ne h hid, hid, hs]

/-- a segment that is not rendered leaves all blocks as they are -/
theorem rendered_or_same (s : Segment V) : (∃ kind u v log, s.outcome = .rendered kind u v log) ∨
    ∀ id old, s.stateAfter id old = old := by
  unfold stateAfter
  cases s.outcome with
  | rendered kind u v log => exact Or.inl ⟨kind, u, v, log, rfl⟩
  | empty => exact Or.inr fun _ _ => rfl
  | anchorTaken => exact Or.inr fun _ _ => rfl

/-- **a segment puts at most its own value on a block** -/
theorem exists_of_value (hc : (s.apply cells)[id]? = some ⟨b, .value v⟩) :
    cells[id]? = some ⟨b, .value v⟩ ∨
      ∃ kind u log, s.outcome = .rendered kind u v log ∧ u.anchorId = id := by
  rw [getElem?_apply, Option.map_eq_some_iff] at hc
  obtain ⟨⟨b', old⟩, hold, hafter⟩ := hc
  obtain ⟨rfl, hstate⟩ := Cell.mk.inj hafter
  dsimp only at hstate
  rcases s.rendered_or_same with ⟨kind, u, w, log, hout⟩ | hsame
  · by_cases hid : id = u.anchorId
    · subst hid
      rw [stateAfter_anchor hout] at hstate
      obtain rfl := RenderState.value.inj hstate
      exact Or.inr ⟨kind, u, log, hout, rfl⟩
    · refine Or.inl ?_
      have hne : old ≠ .unset := by
        rintro rfl
        rw [stateAfter_unset hout hid] at hstate
        split at hstate <;> cases hstate
      rw [stateAfter_of_ne hout hid hne] at hstate
      rw [hold, hstate]
  · rw [hsame] at hstate
    rw [hold, hstate]
    exact Or.inl rfl

end

end Segment

namespace Pass

variable {r : Renderer V D} {cells cells' : List (Cell V)} {s : Segment V} {ss : List (Segment V)}

/-- a folded member stands on its block -/
theorem Step.value_of_folded (h : Step r cells s) {id : Nat} {b : Block} {v : V}
    (hm : @Member.folded V id b v ∈ s.members) : cells[id]? = some ⟨b, .value v⟩ := by
  cases h with
  | @render next d g start stop hcov =>
    obtain ⟨i, _, ⟨b', state⟩, hc, hmember⟩ := hcov.mem_filterMap_span.mp hm
    cases state with
    | unset => cases hmember
    | seen => cases hmember
    | value w =>
      simp only [Segment.member?] at hmember
      split at hmember
      · obtain ⟨rfl, rfl, rfl⟩ := Member.folded.inj (Option.some.inj hmember)
        exact hc
      · cases hmember

namespace Steps

theorem eq_foldl (h : Steps r cells ss cells') :
    cells' = ss.foldl (fun cells s => s.apply cells) cells := by
  induction h with
  | nil => rfl
  | cons _ _ ih => exact ih

/-- **each value was made by a segment**, unless it was there from the start -/
theorem exists_of_value (h : Steps r cells ss cells') {id : Nat} {b : Block} {v : V}
    (hc : cells'[id]? = some ⟨b, .value v⟩) : cells[id]? = some ⟨b, .value v⟩ ∨
      ∃ s ∈ ss, ∃ kind u log, s.outcome = .rendered kind u v log ∧ u.anchorId = id := by
  induction h with
  | nil => exact Or.inl hc
  | cons _ _ ih =>
    rcases ih hc with hc | ⟨s', hs', hout⟩
    · rcases Segment.exists_of_value hc with hc | hout
      · exact Or.inl hc
      · exact Or.inr ⟨_, List.mem_cons_self, hout⟩
    · exact Or.inr ⟨s', List.mem_cons_of_mem _ hs', hout⟩

end Steps

end Pass

/-! ## members -/

section
variable (r : Renderer V D) {blocks : List Block} {d : Nat} {g : Group} {start stop : Nat}
  (hg : Group.Covers blocks d g start stop) (value : Nat → Option V) (next : Option Nat)
include hg

/-- the members in their own right are the blocks of the group -/
theorem Segment.own_mem_ofValues {id : Nat} {b : Block} :
    .own id b ∈ (ofValues r blocks value next d g).members ↔ id ∈ g ∧ blocks[id]? = some b := by
  constructor
  · intro hm
    obtain ⟨i, hi, hmember⟩ := List.mem_filterMap.mp hm
    obtain ⟨b', hb, ⟨hd, heq⟩ | ⟨_, _, v, _, heq⟩⟩ := memberAt_eq_some.mp hmember
    · obtain ⟨rfl, rfl⟩ := Member.own.inj heq
      rcases hg.le_indent_of_mem_span hi hb with hlt | ⟨_, hmem⟩
      · omega
      · exact ⟨hmem, hb⟩
    · cases heq
  · rintro ⟨hid, hb⟩
    have hmember : memberAt blocks value next d id = some (.own id b) :=
      memberAt_eq_some.mpr ⟨b, hb, Or.inl ⟨hg.indent_eq hid hb, rfl⟩⟩
    exact List.mem_filterMap.mpr ⟨id, hg.mem_span_of_mem next hid, hmember⟩

end

/-! ## the contract -/

/-- what a renderer may rely on when it is called for the segment `s` with the unit `u`: `earlier`
are the segments before `s`, and `before` are the cells that they leave -/
structure Segment.Contract (blocks : List Block) (table : GroupTable) (earlier : List (Segment V))
    (before : List (Cell V)) (s : Segment V) (kind : LineKind) (u : RenderUnit V) : Prop where
  head : s.group.head? = some u.anchorId
  kind_eq : kind = Line.kind (u.anchor.firstLine?.getD [])
  ascending : u.ids.Pairwise (· < ·)
  own_iff : ∀ id b, .own id b ∈ u.members ↔ id ∈ s.group ∧ blocks[id]? = some b
  seen : ∀ id b, .own id b ∈ u.members →
    b.indent = u.anchor.indent ∧ (s.marked before)[id]? = some ⟨b, .seen⟩
  valued : ∀ id b v, @Member.folded V id b v ∈ u.members →
    table.Adjacent u.anchor.indent b.indent ∧ (s.marked before)[id]? = some ⟨b, .value v⟩ ∧
      ∃ s' ∈ earlier, s'.group.head? = some id ∧
        ∃ kind' u' log, s'.outcome = .rendered kind' u' v log
  /-- a quest header stands alone, and what would have been folded into it is reported -/
  members_eq : u.members = if kind = .root then [.own u.anchorId u.anchor] else s.members
  notices_eq : s.notices = if kind = .root ∧ s.children ≠ [] then
    [Problem.manyQuestBlocks.on (s.members.map Member.id)] else []

theorem Block.isIsolated_of_kind {b : Block} (h : b.kind = .root) : b.isIsolated = true := by
  unfold kind at h
  unfold isIsolated
  cases hline : b.firstLine? with
  | none =>
    rw [hline] at h
    cases h
  | some line =>
    rw [hline, Option.getD_some, Line.kind_eq_root_iff] at h
    simp [h]

namespace Compilation.Fresh

variable {r : Renderer V D} {blocks : List Block} {c : Compilation V D}

/-- the group of a quest header is the header alone -/
theorem group_of_root (h : c.Fresh r blocks) {l : Level} (hl : l ∈ c.table) {g : Group}
    (hg : g ∈ l.nonEmpty) {a : Nat} (ha : g.head? = some a) {b : Block} (hb : blocks[a]? = some b)
    (hroot : b.kind = .root) : g = [a] := by
  refine (h.table_over.levels l hl).eq_singleton_of_isolated hg ha ?_
  rw [hb, Option.any_some]
  exact Block.isIsolated_of_kind hroot

section
variable (h : c.Fresh r blocks) {l : Level} (hl : l ∈ c.table) {g : Group} (hg : g ∈ l.nonEmpty)
  {start stop : Nat} (hcov : Group.Covers blocks l.depth g start stop) {b : Block}
  (hb : blocks[start]? = some b) {s : Segment V}
  (hs : Segment.ofValues r blocks c.value? (c.table.nextDepth? l.depth) l.depth g = s)
  {rest : List (Member V)} (hmembers : s.members = .own start b :: rest)
include h hl hg hcov hb hs hmembers

/-- the segment of a quest header has nothing but folded members after it -/
theorem children_of_root (hroot : b.kind = .root) : s.children = rest.map Member.id := by
  have hids := Segment.pairwise_ids r hcov c.value? (c.table.nextDepth? l.depth)
  have hown : ∀ id b', .own id b' ∈ s.members → id ∈ g := fun _ _ hm =>
    ((Segment.own_mem_ofValues r hcov c.value? _).mp (hs ▸ hm)).1
  rw [hs, hmembers] at hids
  have hfolded : ∀ m ∈ rest, m.isFolded = true := by
    intro m hm
    cases m with
    | folded id v => rfl
    | own id b' =>
      have hid := hown id b' (hmembers ▸ List.mem_cons_of_mem _ hm)
      rw [h.group_of_root hl hg hcov.head hb hroot, List.mem_singleton] at hid
      have hlt : start < id := List.rel_of_pairwise_cons hids (List.mem_map_of_mem hm)
      omega
  unfold Segment.children
  rw [hmembers, List.filter_cons_of_neg Bool.false_ne_true, List.filter_eq_self.mpr hfolded]

/-- the blocks of a unit are those of the group -/
theorem own_mem_unit {id : Nat} {b' : Block} :
    .own id b' ∈ (.own start b :: if b.kind = .root then [] else rest : List (Member V)) ↔
      id ∈ g ∧ blocks[id]? = some b' := by
  by_cases hroot : b.kind = .root
  · rw [if_pos hroot, List.mem_singleton, h.group_of_root hl hg hcov.head hb hroot,
      List.mem_singleton]
    constructor
    · intro heq
      obtain ⟨rfl, rfl⟩ := Member.own.inj heq
      exact ⟨rfl, hb⟩
    · rintro ⟨rfl, hb'⟩
      rw [Option.some.inj (hb.symm.trans hb')]
  · rw [if_neg hroot, ← hmembers, ← hs]
    exact Segment.own_mem_ofValues r hcov c.value? _

/-- the message 423 tells of values in the segment of a quest header -/
theorem notices_eq {u : RenderUnit V} {v : V} {log : List Diagnostic}
    (hout : s.outcome = .rendered b.kind u v log) :
    s.notices = if b.kind = .root ∧ s.children ≠ [] then
      [Problem.manyQuestBlocks.on (s.members.map Member.id)] else [] := by
  have hmisplaced : s.misplaced = [] := by rw [← hs]; rfl
  have hcond : (b.kind = .root ∧ s.members.length ≠ 1) ↔ (b.kind = .root ∧ s.children ≠ []) := by
    refine and_congr_right fun hroot => ?_
    rw [h.children_of_root hl hg hcov hb hs hmembers hroot, hmembers]
    cases rest <;> simp
  unfold Segment.notices
  rw [hout, hmisplaced]
  dsimp only
  rw [List.map_nil, List.nil_append]
  simp only [hcond]

end

/-- a folded member stands at the next greater depth -/
theorem adjacent_of_folded (h : c.Fresh r blocks) {l : Level} (hl : l ∈ c.table) {g : Group}
    {id : Nat} {b : Block} {v : V} (hm : @Member.folded V id b v ∈
      (Segment.ofValues r blocks c.value? (c.table.nextDepth? l.depth) l.depth g).members) :
    c.table.Adjacent l.depth b.indent := by
  obtain ⟨i, _, hmember⟩ := List.mem_filterMap.mp hm
  obtain ⟨b', _, ⟨_, heq⟩ | ⟨_, hnext, w, _, heq⟩⟩ := memberAt_eq_some.mp hmember
  · cases heq
  · obtain ⟨rfl, rfl, rfl⟩ := Member.folded.inj heq
    exact (h.table_over.nextDepth?_eq_some (List.mem_map_of_mem hl)).mp hnext.symm

/-- no fresh block has a value, so a value that is met was made by an earlier segment -/
theorem exists_earlier (h : c.Fresh r blocks) {earlier later : List (Segment V)}
    (hsegments : c.segments = earlier ++ later) {before : List (Cell V)}
    (hsteps : Pass.Steps r (blocks.map Cell.fresh) earlier before) {id : Nat} {b : Block} {v : V}
    (hvalue : before[id]? = some ⟨b, .value v⟩) : ∃ s ∈ earlier, s.group.head? = some id ∧
      ∃ kind u log, s.outcome = .rendered kind u v log := by
  rcases hsteps.exists_of_value hvalue with hfresh | ⟨s, hs, kind, u, log, hout, rfl⟩
  · rw [List.getElem?_map, Option.map_eq_some_iff] at hfresh
    obtain ⟨_, _, hcell⟩ := hfresh
    cases hcell
  · have hmem : s ∈ c.segments := hsegments ▸ List.mem_append_left _ hs
    obtain ⟨_, _, _, _, hout', hhead, _⟩ := h.kept s hmem
    obtain ⟨_, rfl, _, _⟩ := Outcome.rendered.inj (hout.symm.trans hout')
    exact ⟨s, hs, hhead, kind, u, log, hout⟩

/-- **the contract at a call** -/
theorem contract (h : c.Fresh r blocks) {pre post : List (Segment V)} {s : Segment V}
    (hsegments : c.segments = pre ++ s :: post) {before : List (Cell V)}
    (hpre : Pass.Steps r (blocks.map Cell.fresh) pre before) (hstep : Pass.Step r before s) :
    ∃ kind u, s.outcome = .rendered kind u (r.unit kind u).1 (r.unit kind u).2 ∧
      s.Contract blocks c.table pre before kind u := by
  obtain ⟨l, hl, g, hg, hs⟩ := h.mem_segments.mp (show s ∈ c.segments by simp [hsegments])
  obtain ⟨start, stop, hcov⟩ := (h.table_over.levels l hl).covers hg
  obtain ⟨b, rest, hb, hmembers, hout⟩ := Segment.ofValues_outcome r hcov c.value?
    (c.table.nextDepth? l.depth)
  have hids := Segment.pairwise_ids r hcov c.value? (c.table.nextDepth? l.depth)
  rw [hs] at hmembers hout hids
  have hgroup : s.group = g := by rw [← hs]; rfl
  have hdepth : b.indent = l.depth := hcov.indent_eq hcov.start_mem hb
  let members : List (Member V) := .own start b :: if b.kind = .root then [] else rest
  have hown : ∀ id b', .own id b' ∈ members ↔ id ∈ g ∧ blocks[id]? = some b' := fun _ _ =>
    h.own_mem_unit hl hg hcov hb hs hmembers
  have hmembers_eq : members = if b.kind = .root then [.own start b] else s.members := by
    rw [hmembers]
    show (_ :: if _ then _ else _) = _
    split <;> rfl
  -- the members of the unit are members of the segment
  have hsub : members.Sublist s.members := by
    rw [hmembers_eq, hmembers]
    split
    · exact (List.nil_sublist _).cons_cons _
    · exact List.Sublist.refl _
  refine ⟨b.kind, _, hout, hgroup ▸ hcov.head, rfl, hids.sublist (hsub.map Member.id),
    hgroup ▸ hown, ?_, ?_, hmembers_eq, h.notices_eq hl hg hcov hb hs hmembers hout⟩
  · intro id b' hm
    obtain ⟨hid, hb'⟩ := (hown id b').mp hm
    refine ⟨(hcov.indent_eq hid hb').trans hdepth.symm, ?_⟩
    exact Segment.marked_unset (hstep.unset_of_own (hsub.subset hm))
      (List.mem_map_of_mem (f := Member.id) (hsub.subset hm))
  · intro id b' v hm
    have hvalue := hstep.value_of_folded (hsub.subset hm)
    refine ⟨?_, Segment.marked_value hvalue, h.exists_earlier hsegments hpre hvalue⟩
    show c.table.Adjacent b.indent b'.indent
    rw [hdepth]
    exact h.adjacent_of_folded hl (hs ▸ hsub.subset hm)

end Compilation.Fresh

/-- the contract at a call, where the cells are those that the segments before it leave -/
theorem Compilation.exists_contract (r : Renderer V D) {blocks : List Block}
    {pre post : List (Segment V)} {s : Segment V}
    (hsegments : (ofBlocks r blocks).segments = pre ++ s :: post) :
    ∃ kind u, s.outcome = .rendered kind u (r.unit kind u).1 (r.unit kind u).2 ∧
      s.Contract blocks (ofBlocks r blocks).table pre
        (pre.foldl (fun cells s => s.apply cells) (blocks.map Cell.fresh)) kind u := by
  have hsteps : Pass.Steps r (blocks.map Cell.fresh) (pre ++ s :: post) (ofBlocks r blocks).cells :=
    hsegments ▸ (steps_ofCells r (blocks.map Cell.fresh)).1
  obtain ⟨before, hpre, hstep, _⟩ := hsteps.exists_step
  obtain rfl := hpre.eq_foldl
  exact (fresh r blocks).contract hsegments hpre hstep

/-- **The contract of a renderer.**  A render of fresh blocks calls the renderer once for every group,
the deepest level first, and from left to right within a level.  What it calls it with is as
`Segment.Contract` says: the kind of the first line of the group, and a unit of ascending blocks that
starts with the first block of the group.  Just the blocks of the group are seen; every other member
has a value, stands at the next greater depth, heads a group of its own, and was rendered by an
earlier call.  A quest header comes alone, and the message 423 tells of values that it leaves out. -/
theorem Compilation.renderer_contract (r : Renderer V D) (blocks : List Block) :
    let c := ofBlocks r blocks
    (c.table.Pairwise (·.depth < ·.depth) ∧
      (∀ l ∈ c.table, l.nonEmpty.Pairwise fun g g' => ∀ i ∈ g, ∀ j ∈ g', i < j) ∧
      c.segments.map Segment.group = c.table.reverse.flatMap Level.nonEmpty) ∧
    ∀ pre s post, c.segments = pre ++ s :: post →
      let before := pre.foldl (fun cells s => s.apply cells) (blocks.map Cell.fresh)
      ∃ kind u v log, s.calls = [(kind, u)] ∧ r.unit kind u = (v, log) ∧
        s.Contract blocks c.table pre before kind u ∧
        ∀ id : Nat, (s.apply before)[id]? = (s.marked before)[id]?.map fun cell =>
          if id = u.anchorId then ⟨cell.block, .value v⟩ else cell := by
  intro c
  have h : c.Fresh r blocks := fresh r blocks
  refine ⟨⟨h.table_over.sorted, fun l hl => (h.table_over.levels l hl).pairwise,
    (steps_ofCells r _).2⟩, ?_⟩
  intro pre s post hsegments before
  obtain ⟨kind, u, hout, hcontract⟩ := exists_contract r hsegments
  refine ⟨kind, u, _, _, ?_, rfl, hcontract, Segment.getElem?_apply_marked hout⟩
  unfold Segment.calls
  rw [hout]

end QuestScript
