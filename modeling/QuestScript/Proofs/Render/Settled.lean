import QuestScript.Compilation
import QuestScript.Proofs.Render.Span

/-!
# Rendering a group of fresh blocks

What becomes of the blocks of a group, as long as no block has met another render:

* `Segment.ofValues`       the segment of a group, from the values that are kept on deeper blocks;
* `Settled`                the cells of a pass so far: blocks that are done have left `unset`, the
                           first of each group with a value, and the others are as they were;
* `Settled.render_eq`      the segment that is rendered is the one of `ofValues`;
* `Settled.apply`          the step: it settles the blocks of the group.
-/

namespace QuestScript

variable {V D : Type}

/-! ## what a segment leaves behind -/

/-- the value kept on a block -/
def valueOf (cells : List (Cell V)) (id : Nat) : Option V := cells[id]?.bind (·.state.value?)

theorem valueOf_eq {cells : List (Cell V)} {id : Nat} {c : Cell V} (hc : cells[id]? = some c) :
    valueOf cells id = c.state.value? := by
  unfold valueOf
  rw [hc]
  rfl

theorem getElem?_map_block {cells : List (Cell V)} {id : Nat} {c : Cell V}
    (hc : cells[id]? = some c) : (cells.map Cell.block)[id]? = some c.block := by
  rw [List.getElem?_map, hc]
  rfl

namespace Segment

variable {s : Segment V} {kind : LineKind} {u : RenderUnit V} {v : V} {log : List Diagnostic}

theorem stateAfter_anchor (h : s.outcome = .rendered kind u v log) (old : RenderState V) :
    s.stateAfter u.anchorId old = .value v := by
  unfold stateAfter
  rw [h]
  exact if_pos rfl

theorem stateAfter_unset (h : s.outcome = .rendered kind u v log) {id : Nat}
    (hid : id ≠ u.anchorId) : s.stateAfter id .unset =
      if id ∈ s.members.map Member.id then .seen else .unset := by
  unfold stateAfter
  rw [h]
  exact if_neg hid

theorem stateAfter_of_ne (h : s.outcome = .rendered kind u v log) {id : Nat}
    (hid : id ≠ u.anchorId) {old : RenderState V} (hold : old ≠ .unset) :
    s.stateAfter id old = old := by
  unfold stateAfter
  rw [h]
  show (if id = u.anchorId then _ else _) = _
  rw [if_neg hid]
  cases old with
  | unset => exact absurd rfl hold
  | seen => rfl
  | value v => rfl

theorem getElem?_apply (s : Segment V) (cells : List (Cell V)) (id : Nat) :
    (s.apply cells)[id]? = cells[id]?.map fun c => ⟨c.block, s.stateAfter id c.state⟩ :=
  List.getElem?_mapIdx

theorem map_block_apply (s : Segment V) (cells : List (Cell V)) :
    (s.apply cells).map Cell.block = cells.map Cell.block := by
  apply List.ext_getElem?
  intro id
  rw [List.getElem?_map, List.getElem?_map, getElem?_apply, Option.map_map]
  rfl

end Segment

/-! ## segments from values -/

/-- a block as a member of the segment of a group of depth `d` -/
def memberAt (blocks : List Block) (value : Nat → Option V) (next : Option Nat) (d id : Nat) :
    Option (Member V) :=
  blocks[id]?.bind fun b =>
    if b.indent = d then some (.own id b)
    else if some b.indent = next then (value id).map (@Member.folded V id b)
    else none

/-- the segment of a group of depth `d`, given the values that are kept on deeper blocks -/
def Segment.ofValues (r : Renderer V D) (blocks : List Block) (value : Nat → Option V)
    (next : Option Nat) (d : Nat) (g : Group) : Segment V :=
  let members := (Group.span blocks next d g).filterMap (memberAt blocks value next d)
  ⟨g, members, [], outcomeOf r members⟩

theorem memberAt_eq_some {blocks : List Block} {value : Nat → Option V} {next : Option Nat}
    {d id : Nat} {m : Member V} : memberAt blocks value next d id = some m ↔
      ∃ b, blocks[id]? = some b ∧ (b.indent = d ∧ m = .own id b ∨
        b.indent ≠ d ∧ some b.indent = next ∧ ∃ v, value id = some v ∧
          m = @Member.folded V id b v) := by
  unfold memberAt
  cases blocks[id]? with
  | none => simp
  | some b =>
    simp only [Option.bind_some, Option.some.injEq, exists_eq_left']
    split
    · next hd => simp [hd, eq_comm]
    · next hd =>
      split
      · next hn => cases value id <;> simp [hd, hn, eq_comm]
      · next hn => simp [hd, hn]

theorem id_of_memberAt {blocks : List Block} {value : Nat → Option V} {next : Option Nat}
    {d id : Nat} {m : Member V} (h : memberAt blocks value next d id = some m) : m.id = id := by
  obtain ⟨b, _, ⟨_, rfl⟩ | ⟨_, _, v, _, rfl⟩⟩ := memberAt_eq_some.mp h
  · rfl
  · rfl

/-- the members of a segment depend on the values of the deeper blocks that it spans -/
theorem Segment.ofValues_congr (r : Renderer V D) {blocks : List Block} {d : Nat} {g : Group}
    {start stop : Nat} (hg : Group.Covers blocks d g start stop) {value value' : Nat → Option V}
    (h : ∀ id b, blocks[id]? = some b → d < b.indent → value id = value' id)
    (next : Option Nat) :
    ofValues r blocks value next d g = ofValues r blocks value' next d g := by
  have hm : (Group.span blocks next d g).filterMap (memberAt blocks value next d) =
      (Group.span blocks next d g).filterMap (memberAt blocks value' next d) := by
    refine List.filterMap_congr ?_
    intro id hid
    unfold memberAt
    cases hb : blocks[id]? with
    | none => rfl
    | some b =>
      rcases hg.le_indent_of_mem_span hid hb with hlt | ⟨heq, _⟩
      · rw [h id b hb hlt]
      · simp only [Option.bind_some, if_pos heq]
  unfold ofValues
  dsimp only
  rw [hm]

/-- the anchor is the first member of a segment, so the segment is rendered -/
theorem Segment.ofValues_outcome (r : Renderer V D) {blocks : List Block} {d : Nat} {g : Group}
    {start stop : Nat} (hg : Group.Covers blocks d g start stop) (value : Nat → Option V)
    (next : Option Nat) : ∃ b rest, blocks[start]? = some b ∧
      (ofValues r blocks value next d g).members = .own start b :: rest ∧
      let u : RenderUnit V := ⟨start, b, if b.kind = .root then [] else rest⟩
      (ofValues r blocks value next d g).outcome =
        .rendered b.kind u (r.unit b.kind u).1 (r.unit b.kind u).2 := by
  obtain ⟨b, hb, hd⟩ := hg.exists_block hg.start_mem
  have hmember : memberAt blocks value next d start = some (.own start b) := by
    unfold memberAt
    rw [hb, Option.bind_some, if_pos hd]
  obtain ⟨k, hk⟩ : ∃ k, stop + 1 - start + Group.extent blocks next d stop = k + 1 := by
    have := hg.start_le
    exact ⟨stop - start + Group.extent blocks next d stop, by omega⟩
  have hmembers : (ofValues r blocks value next d g).members = .own start b ::
      (List.range' (start + 1) k).filterMap (memberAt blocks value next d) := by
    show (Group.span blocks next d g).filterMap _ = _
    rw [hg.span_eq, hk, List.range'_succ, List.filterMap_cons, hmember]
  refine ⟨b, _, hb, hmembers, ?_⟩
  show outcomeOf r (ofValues r blocks value next d g).members = _
  rw [hmembers]
  rfl

theorem Segment.mem_ids_ofValues (r : Renderer V D) {blocks : List Block} {d : Nat} {g : Group}
    (value : Nat → Option V) (next : Option Nat) {id : Nat} :
    id ∈ (ofValues r blocks value next d g).members.map Member.id ↔
      id ∈ Group.span blocks next d g ∧ (memberAt blocks value next d id).isSome := by
  show id ∈ ((Group.span blocks next d g).filterMap _).map Member.id ↔ _
  rw [List.mem_map]
  constructor
  · rintro ⟨m, hm, rfl⟩
    obtain ⟨id, hid, h⟩ := List.mem_filterMap.mp hm
    rw [id_of_memberAt h]
    exact ⟨hid, Option.isSome_iff_exists.mpr ⟨m, h⟩⟩
  · rintro ⟨hid, h⟩
    obtain ⟨m, hm⟩ := Option.isSome_iff_exists.mp h
    exact ⟨m, List.mem_filterMap.mpr ⟨id, hid, hm⟩, id_of_memberAt hm⟩

/-- the segment was rendered, and its value is the one kept on the first block of the group -/
def Segment.Kept (value : Nat → Option V) (s : Segment V) : Prop :=
  ∃ kind u v log, s.outcome = .rendered kind u v log ∧ s.group.head? = some u.anchorId ∧
    value u.anchorId = some v

theorem Segment.Kept.congr {value value' : Nat → Option V} {s : Segment V} (h : s.Kept value)
    (hv : ∀ id ∈ s.group, value id = value' id) : s.Kept value' := by
  obtain ⟨kind, u, v, log, hout, hhead, hval⟩ := h
  refine ⟨kind, u, v, log, hout, hhead, ?_⟩
  rw [← hv _ (List.mem_of_head? hhead), hval]

/-- the state of a block that is or is not done, and is or is not the first of its group -/
def RenderState.Marks (done anchor : Prop) : RenderState V → Prop
  | .unset => ¬done
  | .seen => done ∧ ¬anchor
  | .value _ => done ∧ anchor

/-- the blocks that are `done` have left `unset`, the anchors among them with a value -/
structure Settled (blocks : List Block) (anchors : List Nat) (done : Nat → Prop)
    (cells : List (Cell V)) : Prop where
  blocks_eq : cells.map Cell.block = blocks
  marks : ∀ (id : Nat) (c : Cell V), cells[id]? = some c → c.state.Marks (done id) (id ∈ anchors)

theorem settled_fresh (blocks : List Block) (anchors : List Nat) :
    Settled blocks anchors (fun _ => False) (blocks.map (Cell.fresh (V := V))) where
  blocks_eq := by
    rw [List.map_map]
    exact List.map_id blocks
  marks := by
    intro id c hc
    rw [List.getElem?_map, Option.map_eq_some_iff] at hc
    obtain ⟨b, _, rfl⟩ := hc
    exact not_false

namespace Settled

variable {blocks : List Block} {anchors : List Nat} {done : Nat → Prop} {cells : List (Cell V)}

theorem block_eq (h : Settled blocks anchors done cells) {id : Nat} {c : Cell V}
    (hc : cells[id]? = some c) : blocks[id]? = some c.block := by
  rw [← h.blocks_eq, getElem?_map_block hc]

theorem getElem?_eq_some (h : Settled blocks anchors done cells) {id : Nat} {b : Block}
    (hb : blocks[id]? = some b) : ∃ c, cells[id]? = some c ∧ c.block = b := by
  rw [← h.blocks_eq, List.getElem?_map] at hb
  exact Option.map_eq_some_iff.mp hb

theorem congr (h : Settled blocks anchors done cells) {done' : Nat → Prop}
    (hd : ∀ id, id < blocks.length → (done id ↔ done' id)) :
    Settled blocks anchors done' cells where
  blocks_eq := h.blocks_eq
  marks := by
    intro id c hc
    have hlt : id < blocks.length := (List.getElem?_eq_some_iff.mp (h.block_eq hc)).1
    have hm := h.marks id c hc
    rwa [propext (hd id hlt)] at hm

/-! ## the step: one group -/

section step
variable {next : Option Nat} {d : Nat} {g : Group} {start stop : Nat}
  (h : Settled blocks anchors done cells) (hg : Group.Covers blocks d g start stop)
  (hfree : ∀ id ∈ g, ¬done id)
  (hdeep : ∀ id b, blocks[id]? = some b → d < b.indent → done id)
  (hanchor : ∀ id ∈ g, id ∈ anchors ↔ id = start)
include h hg hfree hdeep

/-- in the segment of a group, just the blocks of the group are unset -/
theorem unset_iff {id : Nat} {c : Cell V} (hid : id ∈ Group.span blocks next d g)
    (hc : cells[id]? = some c) : c.state = .unset ↔ id ∈ g := by
  have hm := h.marks id c hc
  rcases hg.le_indent_of_mem_span hid (h.block_eq hc) with hlt | ⟨_, hmem⟩
  · have hdone := hdeep id _ (h.block_eq hc) hlt
    refine iff_of_false ?_ fun hmem => hfree id hmem hdone
    intro e
    rw [e] at hm
    exact hm hdone
  · refine iff_of_true ?_ hmem
    cases hs : c.state with
    | unset => rfl
    | seen => rw [hs] at hm; exact absurd hm.1 (hfree id hmem)
    | value v => rw [hs] at hm; exact absurd hm.1 (hfree id hmem)

theorem members_eq : (Segment.span cells next d start stop).filterMap (Segment.member? next) =
    (Group.span blocks next d g).filterMap (memberAt blocks (valueOf cells) next d) := by
  rw [Segment.filterMap_span cells next d hg.head hg.last hg.start_le, h.blocks_eq]
  refine List.filterMap_congr ?_
  intro id hid
  unfold memberAt valueOf
  cases hc : cells[id]? with
  | none =>
    have hb : blocks[id]? = none := by rw [← h.blocks_eq, List.getElem?_map, hc]; rfl
    rw [hb]
    rfl
  | some c =>
    have hu := h.unset_iff hg hfree hdeep hid hc
    rw [h.block_eq hc]
    simp only [Option.bind_some]
    rcases hg.le_indent_of_mem_span hid (h.block_eq hc) with hlt | ⟨heq, hmem⟩
    · have hnot : id ∉ g := fun hmem => hlt.ne' (hg.indent_eq hmem (h.block_eq hc))
      rw [if_neg hlt.ne']
      obtain ⟨b, s⟩ := c
      cases s with
      | unset => exact absurd (hu.mp rfl) hnot
      | seen => simp [Segment.member?, RenderState.value?]
      | value v => simp [Segment.member?, RenderState.value?]
    · rw [if_pos heq]
      obtain ⟨b, s⟩ := c
      obtain rfl : s = .unset := hu.mpr hmem
      rfl

theorem misplaced_eq :
    (Segment.span cells next d start stop).filterMap (Segment.misplaced? d) = [] := by
  rw [Segment.filterMap_span cells next d hg.head hg.last hg.start_le, h.blocks_eq,
    List.filterMap_eq_nil_iff]
  intro id hid
  cases hc : cells[id]? with
  | none => rfl
  | some c =>
    have hu := h.unset_iff hg hfree hdeep hid hc
    rcases hg.le_indent_of_mem_span hid (h.block_eq hc) with hlt | ⟨heq, hmem⟩
    · have hnot : id ∉ g := fun hmem => hlt.ne' (hg.indent_eq hmem (h.block_eq hc))
      obtain ⟨b, s⟩ := c
      cases s with
      | unset => exact absurd (hu.mp rfl) hnot
      | seen => rfl
      | value v => rfl
    · obtain ⟨b, s⟩ := c
      cases s with
      | unset => simp only [Option.bind_some, Segment.misplaced?, if_pos heq]
      | seen => rfl
      | value v => rfl

/-- **the segment of a group** depends on the values that are kept on deeper blocks alone -/
theorem render_eq (r : Renderer V D) : Segment.render r next cells d g start stop =
    Segment.ofValues r blocks (valueOf cells) next d g := by
  unfold Segment.render Segment.ofValues
  dsimp only
  rw [h.members_eq hg hfree hdeep, h.misplaced_eq hg hfree hdeep]

omit h hfree hdeep in
theorem mem_ids_of_mem (r : Renderer V D) (value : Nat → Option V) {id : Nat} (hid : id ∈ g) :
    id ∈ (Segment.ofValues r blocks value next d g).members.map Member.id := by
  obtain ⟨b, hb, hd⟩ := hg.exists_block hid
  rw [Segment.mem_ids_ofValues]
  refine ⟨hg.mem_span_of_mem next hid, ?_⟩
  unfold memberAt
  rw [hb, Option.bind_some, if_pos hd]
  rfl

omit hdeep in
theorem valueOf_apply (r : Renderer V D) (value : Nat → Option V) {id : Nat} (hid : done id) :
    valueOf ((Segment.ofValues r blocks value next d g).apply cells) id = valueOf cells id := by
  obtain ⟨b, rest, _, _, hout⟩ := Segment.ofValues_outcome r hg value next
  unfold valueOf
  rw [Segment.getElem?_apply]
  cases hc : cells[id]? with
  | none => rfl
  | some c =>
    have hne : id ≠ start := fun e => hfree start hg.start_mem (e ▸ hid)
    have hm := h.marks id c hc
    have hold : c.state ≠ .unset := by
      intro e
      rw [e] at hm
      exact hm hid
    show (Segment.stateAfter _ id c.state).value? = c.state.value?
    rw [Segment.stateAfter_of_ne hout hne hold]

omit hfree hdeep in
theorem kept_apply (r : Renderer V D) (value : Nat → Option V) {value' : Nat → Option V}
    (hv : value' start =
      valueOf ((Segment.ofValues r blocks value next d g).apply cells) start) :
    (Segment.ofValues r blocks value next d g).Kept value' := by
  obtain ⟨b, rest, hb, _, hout⟩ := Segment.ofValues_outcome r hg value next
  obtain ⟨c, hc, _⟩ := h.getElem?_eq_some hb
  refine ⟨_, _, _, _, hout, hg.head, ?_⟩
  show value' start = _
  rw [hv]
  unfold valueOf
  rw [Segment.getElem?_apply, hc]
  show (Segment.stateAfter _ start c.state).value? = _
  rw [Segment.stateAfter_anchor hout]
  rfl

include hanchor

/-- **the step**: the segment of a group settles the blocks of the group -/
theorem apply (r : Renderer V D) : Settled blocks anchors (fun id => done id ∨ id ∈ g)
    ((Segment.ofValues r blocks (valueOf cells) next d g).apply cells) where
  blocks_eq := (Segment.map_block_apply _ _).trans h.blocks_eq
  marks := by
    obtain ⟨b, rest, _, _, hout⟩ := Segment.ofValues_outcome r hg (valueOf cells) next
    intro id c' hc'
    rw [Segment.getElem?_apply, Option.map_eq_some_iff] at hc'
    obtain ⟨c, hc, rfl⟩ := hc'
    have hm := h.marks id c hc
    show (Segment.stateAfter _ id c.state).Marks _ _
    by_cases hid : id = start
    · subst hid
      rw [Segment.stateAfter_anchor hout]
      exact ⟨Or.inr hg.start_mem, (hanchor id hg.start_mem).mpr rfl⟩
    · cases hs : c.state with
      | unset =>
        rw [Segment.stateAfter_unset hout hid]
        split
        · next hmem =>
          have hspan := ((Segment.mem_ids_ofValues r _ next).mp hmem).1
          have hidg := (h.unset_iff hg hfree hdeep hspan hc).mp hs
          exact ⟨Or.inr hidg, fun ha => hid ((hanchor id hidg).mp ha)⟩
        · next hmem =>
          rw [hs] at hm
          rintro (hd | hidg)
          · exact hm hd
          · exact hmem (mem_ids_of_mem hg r _ hidg)
      | seen =>
        rw [Segment.stateAfter_of_ne hout hid (by simp)]
        rw [hs] at hm
        exact ⟨Or.inl hm.1, hm.2⟩
      | value v =>
        rw [Segment.stateAfter_of_ne hout hid (by simp)]
        rw [hs] at hm
        exact ⟨Or.inl hm.1, hm.2⟩

end step

end Settled

end QuestScript
