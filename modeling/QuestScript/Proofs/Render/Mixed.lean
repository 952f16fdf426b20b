import QuestScript.Proofs.Render.Taken

/-!
# A pass over blocks in any state

Blocks may carry states of an earlier render when a pass starts.  Then the first block of a group
may have a value already, and a segment that is not rendered for that reason leaves blocks behind,
which segments of lesser depths pick up.

* `Pass.Step`, `Pass.Steps`        one segment, and a pass as a sequence of segments, each rendered
                                   from the cells that the one before it leaves;
* `Step.kept`, `Steps.kept`        blocks that have left `unset` stay as they are;
* `Step.names`, `Steps.names`      a block that stays unset is named by the segment of its group;
* `Steps.names_before`             a block that is met outside its depth was named before that;
* `Compilation.ofCells_states`     all of it together.
-/

namespace QuestScript

variable {V D : Type}

/-! ## segments -/

namespace Segment

/-- the message 509 of the segment names the block `id` -/
def Names (s : Segment V) (id : Nat) : Prop := ∃ m ∈ s.notices, m.code = 509 ∧ id ∈ m.blocks

/-- the units that the renderer was called with -/
def calls (s : Segment V) : List (LineKind × RenderUnit V) :=
  match s.outcome with
  | .rendered kind u _ _ => [(kind, u)]
  | _ => []

/-- how many messages of the segment have the code `n` -/
def count (s : Segment V) (n : Nat) : Nat := s.notices.countP (·.code = n)

/-- a segment comes to a call of the renderer, or to the message 508, or to the message 509 -/
theorem calls_add_count (s : Segment V) : s.calls.length + s.count 508 + s.count 509 = 1 := by
  have hmisplaced : ∀ n, n ≠ 507 →
      (s.misplaced.map fun id => Problem.unsetOutsideBase.on [id]).countP (·.code = n) = 0 := by
    intro n hn
    rw [List.countP_eq_zero]
    intro m hm
    obtain ⟨id, _, rfl⟩ := List.mem_map.mp hm
    exact fun h => hn (of_decide_eq_true h).symm
  unfold count calls notices
  rw [List.countP_append, List.countP_append, hmisplaced 508 (by decide), hmisplaced 509 (by decide)]
  cases s.outcome with
  | rendered kind u v log =>
    dsimp only
    split <;> rfl
  | empty => rfl
  | anchorTaken => rfl

theorem mem_misplaced_of_notice {s : Segment V} {m : Diagnostic} (hm : m ∈ s.notices)
    (hcode : m.code = 507) : ∃ id ∈ s.misplaced, m = Problem.unsetOutsideBase.on [id] := by
  rcases List.mem_append.mp hm with hm | hm
  · obtain ⟨id, hid, rfl⟩ := List.mem_map.mp hm
    exact ⟨id, hid, rfl⟩
  · cases hout : s.outcome with
    | rendered kind u v log =>
      rw [hout] at hm
      dsimp only at hm
      split at hm
      · obtain rfl := List.mem_singleton.mp hm
        cases hcode
      · cases hm
    | empty =>
      rw [hout] at hm
      obtain rfl := List.mem_singleton.mp hm
      cases hcode
    | anchorTaken =>
      rw [hout] at hm
      obtain rfl := List.mem_singleton.mp hm
      cases hcode

theorem outcomeOf_eq_rendered {r : Renderer V D} {ms : List (Member V)} {kind : LineKind}
    {u : RenderUnit V} {v : V} {log : List Diagnostic}
    (h : outcomeOf r ms = .rendered kind u v log) :
    .own u.anchorId u.anchor ∈ ms ∧ r.unit kind u = (v, log) := by
  cases ms with
  | nil => cases h
  | cons m rest =>
    cases m with
    | folded id v => cases h
    | own id b =>
      obtain ⟨rfl, rfl, rfl, rfl⟩ := Outcome.rendered.inj h
      exact ⟨List.mem_cons_self, rfl⟩

end Segment

/-! ## one step -/

/-- `s` is the segment of a group, as it is rendered from `cells` -/
inductive Pass.Step (r : Renderer V D) (cells : List (Cell V)) : Segment V → Prop
  | render (next : Option Nat) {d : Nat} {g : Group} {start stop : Nat} :
      Group.Covers (cells.map Cell.block) d g start stop →
      Step r cells (Segment.render r next cells d g start stop)

namespace Pass.Step

variable {r : Renderer V D} {cells : List (Cell V)} {s : Segment V}

theorem outcome_eq (h : Step r cells s) : s.outcome = Segment.outcomeOf r s.members := by
  cases h with
  | render next hcov => rfl

theorem unset_of_own (h : Step r cells s) {id : Nat} {b : Block} (hm : .own id b ∈ s.members) :
    cells[id]? = some ⟨b, .unset⟩ := by
  cases h with
  | @render next d g start stop hcov =>
    obtain ⟨i, _, ⟨b', state⟩, hc, hmember⟩ := hcov.mem_filterMap_span.mp hm
    cases state with
    | unset =>
      obtain ⟨rfl, rfl⟩ := Member.own.inj (Option.some.inj hmember)
      exact hc
    | seen => cases hmember
    | value v =>
      simp only [Segment.member?] at hmember
      split at hmember
      · cases hmember
      · cases hmember

/-- the unset blocks of a group are members of its segment -/
theorem mem_ids (h : Step r cells s) {id : Nat} {c : Cell V} (hid : id ∈ s.group)
    (hc : cells[id]? = some c) (hu : c.state = .unset) : id ∈ s.members.map Member.id := by
  cases h with
  | @render next d g start stop hcov =>
    obtain ⟨b, state⟩ := c
    obtain rfl : state = .unset := hu
    exact List.mem_map.mpr ⟨.own id b,
      hcov.mem_filterMap_span.mpr ⟨id, hcov.mem_span_of_mem next hid, _, hc, rfl⟩, rfl⟩

/-- a block that is reported as misplaced is unset, and deeper than the group of the segment -/
theorem unset_of_misplaced (h : Step r cells s) {id : Nat} (hid : id ∈ s.misplaced) :
    ∃ d start stop, Group.Covers (cells.map Cell.block) d s.group start stop ∧
      ∃ c, cells[id]? = some c ∧ c.state = .unset ∧ d < c.block.indent := by
  cases h with
  | @render next d g start stop hcov =>
    obtain ⟨i, hspan, ⟨b, state⟩, hc, hmisplaced⟩ := hcov.mem_filterMap_span.mp hid
    cases state with
    | seen => cases hmisplaced
    | value v => cases hmisplaced
    | unset =>
      simp only [Segment.misplaced?] at hmisplaced
      split at hmisplaced
      · cases hmisplaced
      · next hne =>
        obtain rfl : i = id := Option.some.inj hmisplaced
        have hblock : (cells.map Cell.block)[i]? = some b := getElem?_map_block hc
        refine ⟨d, start, stop, hcov, _, hc, rfl, ?_⟩
        rcases hcov.le_indent_of_mem_span hspan hblock with hlt | ⟨heq, _⟩
        · exact hlt
        · exact absurd heq hne

/-- a segment changes no block that has left `unset` -/
theorem kept (h : Step r cells s) {id : Nat} {c : Cell V} (hc : cells[id]? = some c)
    (hu : c.state ≠ .unset) : (s.apply cells)[id]? = some c := by
  have hstate : s.stateAfter id c.state = c.state := by
    cases hout : s.outcome with
    | rendered kind u v log =>
      refine Segment.stateAfter_of_ne hout ?_ hu
      rintro rfl
      rw [h.outcome_eq] at hout
      have hanchor := h.unset_of_own (Segment.outcomeOf_eq_rendered hout).1
      rw [hc, Option.some.injEq] at hanchor
      exact hu (congrArg Cell.state hanchor)
    | empty =>
      unfold Segment.stateAfter
      rw [hout]
    | anchorTaken =>
      unfold Segment.stateAfter
      rw [hout]
  rw [Segment.getElem?_apply, hc, Option.map_some, hstate]

/-- a block of the group that stays unset is named -/
theorem names (h : Step r cells s) {id : Nat} {c : Cell V} (hid : id ∈ s.group)
    (hc : (s.apply cells)[id]? = some c) (hu : c.state = .unset) : s.Names id := by
  rw [Segment.getElem?_apply, Option.map_eq_some_iff] at hc
  obtain ⟨c', hc', rfl⟩ := hc
  have hu' : c'.state = .unset := by
    by_contra hne
    have hkept := h.kept hc' hne
    rw [Segment.getElem?_apply, hc', Option.map_some, Option.some.injEq] at hkept
    rw [hkept] at hu
    exact hne hu
  have hmem := h.mem_ids hid hc' hu'
  cases hout : s.outcome with
  | rendered kind u v log =>
    rw [hu'] at hu
    by_cases hanchor : id = u.anchorId
    · rw [hanchor, Segment.stateAfter_anchor hout] at hu
      cases hu
    · rw [Segment.stateAfter_unset hout hanchor, if_pos hmem] at hu
      cases hu
  | empty =>
    rw [h.outcome_eq] at hout
    cases hms : s.members with
    | nil =>
      rw [hms] at hmem
      cases hmem
    | cons m rest =>
      rw [hms] at hout
      cases m <;> cases hout
  | anchorTaken =>
    refine ⟨Problem.anchorRendered.on (s.members.map Member.id), ?_, rfl, hmem⟩
    refine List.mem_append_right _ ?_
    rw [hout]
    exact List.mem_singleton_self _

end Pass.Step

/-! ## many steps -/

/-- the blocks of `g` are as deep as those of `g'`, or deeper -/
def Group.AsDeep (blocks : List Block) (g g' : Group) : Prop :=
  ∀ i ∈ g, ∀ j ∈ g', ∀ b b', blocks[i]? = some b → blocks[j]? = some b' → b'.indent ≤ b.indent

/-- the segments `ss`, each rendered from what the one before it leaves, take `cells` to `cells'` -/
inductive Pass.Steps (r : Renderer V D) : List (Cell V) → List (Segment V) → List (Cell V) → Prop
  | nil (cells : List (Cell V)) : Steps r cells [] cells
  | cons {cells cells' : List (Cell V)} {s : Segment V} {ss : List (Segment V)} :
      Step r cells s → Steps r (s.apply cells) ss cells' → Steps r cells (s :: ss) cells'

namespace Pass.Steps

variable {r : Renderer V D} {cells cells' : List (Cell V)} {ss : List (Segment V)}

theorem append {cells'' : List (Cell V)} {ss' : List (Segment V)} (h : Steps r cells ss cells')
    (h' : Steps r cells' ss' cells'') : Steps r cells (ss ++ ss') cells'' := by
  induction h with
  | nil => exact h'
  | cons hs _ ih => exact .cons hs (ih h')

theorem blocks_eq (h : Steps r cells ss cells') :
    cells'.map Cell.block = cells.map Cell.block := by
  induction h with
  | nil => rfl
  | cons _ _ ih => rw [ih, Segment.map_block_apply]

theorem kept (h : Steps r cells ss cells') {id : Nat} {c : Cell V} (hc : cells[id]? = some c)
    (hu : c.state ≠ .unset) : cells'[id]? = some c := by
  induction h with
  | nil => exact hc
  | cons hs _ ih => exact ih (hs.kept hc hu)

/-- each segment of a pass is a step from what the ones before it leave -/
theorem exists_step {pre post : List (Segment V)} {s : Segment V}
    (h : Steps r cells (pre ++ s :: post) cells') :
    ∃ mid, Steps r cells pre mid ∧ Step r mid s ∧ Steps r (s.apply mid) post cells' := by
  induction pre generalizing cells with
  | nil =>
    cases h with
    | cons hs hss => exact ⟨cells, .nil cells, hs, hss⟩
  | cons s' pre ih =>
    cases h with
    | cons hs hss =>
      obtain ⟨mid, hpre, hstep, hpost⟩ := ih hss
      exact ⟨mid, .cons hs hpre, hstep, hpost⟩

theorem exists_step_of_mem (h : Steps r cells ss cells') {s : Segment V} (hs : s ∈ ss) :
    ∃ mid, Step r mid s := by
  obtain ⟨pre, post, rfl⟩ := List.append_of_mem hs
  obtain ⟨mid, _, hstep, _⟩ := h.exists_step
  exact ⟨mid, hstep⟩

/-- a block that is unset at the end was unset from the start -/
theorem unset_before (h : Steps r cells ss cells') {id : Nat} {c : Cell V}
    (hc : cells'[id]? = some c) (hu : c.state = .unset) :
    ∃ c', cells[id]? = some c' ∧ c'.state = .unset := by
  have hblock := getElem?_map_block hc
  rw [h.blocks_eq, List.getElem?_map] at hblock
  obtain ⟨c', hc', _⟩ := Option.map_eq_some_iff.mp hblock
  refine ⟨c', hc', ?_⟩
  by_contra hne
  rw [h.kept hc' hne, Option.some.injEq] at hc
  rw [hc] at hne
  exact hne hu

/-- **a block that stays unset** is named by the segment of its group -/
theorem names (h : Steps r cells ss cells') {s : Segment V} (hs : s ∈ ss) {id : Nat}
    (hid : id ∈ s.group) {c : Cell V} (hc : cells'[id]? = some c) (hu : c.state = .unset) :
    s.Names id := by
  obtain ⟨pre, post, rfl⟩ := List.append_of_mem hs
  obtain ⟨mid, _, hstep, hpost⟩ := h.exists_step
  obtain ⟨c', hc', hu'⟩ := hpost.unset_before hc hu
  exact hstep.names hid hc' hu'

/-- **a block that is met outside its depth** was named before, as long as the segments of deeper
groups come first -/
theorem names_before {pre post : List (Segment V)} {s : Segment V}
    (h : Steps r cells (pre ++ s :: post) cells')
    (hdepth : (pre ++ s :: post).Pairwise fun s s' =>
      Group.AsDeep (cells.map Cell.block) s.group s'.group)
    (hgroup : ∀ id b, (cells.map Cell.block)[id]? = some b → ∃ s' ∈ pre ++ s :: post, id ∈ s'.group)
    {id : Nat} (hid : id ∈ s.misplaced) : ∃ s' ∈ pre, s'.Names id := by
  obtain ⟨mid, hpre, hstep, _⟩ := h.exists_step
  obtain ⟨d, start, stop, hcov, c, hc, hu, hlt⟩ := hstep.unset_of_misplaced hid
  have hblock : (cells.map Cell.block)[id]? = some c.block := by
    rw [← hpre.blocks_eq, getElem?_map_block hc]
  rw [hpre.blocks_eq] at hcov
  obtain ⟨s', hs', hid'⟩ := hgroup id c.block hblock
  rcases List.mem_append.mp hs' with hs' | hs'
  · exact ⟨s', hs', hpre.names hs' hid' hc hu⟩
  · -- the groups of `s` and of the segments after it are not as deep as the block
    rcases List.mem_cons.mp hs' with rfl | hs'
    · have := hcov.indent_eq hid' hblock
      omega
    · obtain ⟨b, hb, hd⟩ := hcov.exists_block hcov.start_mem
      have hafter := List.rel_of_pairwise_cons (List.pairwise_append.mp hdepth).2.1 hs'
      have := hafter start hcov.start_mem id hid' b c.block hb hblock
      omega

end Pass.Steps

/-! ## the segments of a pass -/

namespace Pass

variable (r : Renderer V D)

theorem steps_runGroups (next : Option Nat) (d : Nat) (groups : List Group) :
    ∀ cells : List (Cell V),
      (∀ g ∈ groups, ∃ start stop, Group.Covers (cells.map Cell.block) d g start stop) →
      let p := runGroups r next d cells groups
      Steps r cells p.segments p.cells ∧ p.segments.map Segment.group = groups := by
  induction groups with
  | nil => exact fun cells _ => ⟨.nil cells, rfl⟩
  | cons g groups ih =>
    intro cells hg
    rw [List.forall_mem_cons] at hg
    obtain ⟨⟨start, stop, hcov⟩, hg⟩ := hg
    obtain ⟨hsteps, hgroups⟩ := ih ((Segment.render r next cells d g start stop).apply cells)
      (by rwa [Segment.map_block_apply])
    rw [runGroups, hcov.head, hcov.last]
    exact ⟨.cons (.render next hcov) hsteps, congrArg (g :: ·) hgroups⟩

theorem steps_runLevels (levels : List Level) (cells : List (Cell V))
    (h : ∀ l ∈ levels, l.Cut (cells.map Cell.block)) :
    let p := runLevels r cells levels
    Steps r cells p.segments p.cells ∧
      p.segments.map Segment.group = levels.reverse.flatMap Level.nonEmpty := by
  induction levels with
  | nil => exact ⟨.nil cells, rfl⟩
  | cons l deeper ih =>
    rw [List.forall_mem_cons] at h
    obtain ⟨hl, hdeeper⟩ := h
    obtain ⟨hsteps, hgroups⟩ := ih hdeeper
    have hcovers : ∀ g ∈ l.nonEmpty, ∃ start stop, Group.Covers
        ((runLevels r cells deeper).cells.map Cell.block) l.depth g start stop := by
      rw [hsteps.blocks_eq]
      exact fun g hg => hl.covers hg
    obtain ⟨hsteps', hgroups'⟩ := steps_runGroups r (deeper.head?.map Level.depth) l.depth l.nonEmpty
      _ hcovers
    rw [runLevels]
    refine ⟨hsteps.append hsteps', ?_⟩
    dsimp only
    rw [List.map_append, hgroups, hgroups', List.reverse_cons, List.flatMap_append,
      List.flatMap_singleton]

end Pass

/-- the groups of a table, from the last level to the first, come in the order of their depths -/
theorem GroupTable.Over.pairwise_groups {blocks : List Block} {table : GroupTable}
    (h : table.Over blocks (Level.Cut blocks)) :
    (table.reverse.flatMap Level.nonEmpty).Pairwise (Group.AsDeep blocks) := by
  have hindent : ∀ l ∈ table, ∀ g ∈ l.nonEmpty, ∀ i ∈ g, ∀ b, blocks[i]? = some b →
      b.indent = l.depth := by
    intro l hl g hg i hi b hb
    obtain ⟨_, _, hcov⟩ := (h.levels l hl).covers hg
    exact hcov.indent_eq hi hb
  rw [List.pairwise_flatMap]
  constructor
  · intro l hl
    rw [List.mem_reverse] at hl
    refine List.pairwise_of_forall_mem_list fun g hg g' hg' i hi j hj b b' hb hb' => ?_
    rw [hindent l hl g hg i hi b hb, hindent l hl g' hg' j hj b' hb']
  · rw [List.pairwise_reverse]
    refine h.sorted.imp_of_mem fun {l l'} hl hl' hlt g' hg' g hg j hj i hi b' b hb' hb => ?_
    rw [hindent l hl g hg i hi b hb, hindent l' hl' g' hg' j hj b' hb']
    exact hlt.le

/-! ## a whole pass -/

theorem exists_of_flatMap_eq_append_cons {α β : Type} {f : α → List β} {l : List α}
    {pre post : List β} {m : β} (h : l.flatMap f = pre ++ m :: post) :
    ∃ l₁ a l₂ p q, l = l₁ ++ a :: l₂ ∧ f a = p ++ m :: q ∧ pre = l₁.flatMap f ++ p := by
  induction l generalizing pre with
  | nil => simp at h
  | cons a l ih =>
    -- either all of `f a` stands before `m`, or `m` is in it
    have hlater : ∀ pre', l.flatMap f = pre' ++ m :: post → pre = f a ++ pre' →
        ∃ l₁ a' l₂ p q, a :: l = l₁ ++ a' :: l₂ ∧ f a' = p ++ m :: q ∧ pre = l₁.flatMap f ++ p := by
      intro pre' hl hpre
      obtain ⟨l₁, a', l₂, p, q, rfl, ha', rfl⟩ := ih hl
      exact ⟨a :: l₁, a', l₂, p, q, rfl, ha', by simp [hpre]⟩
    rw [List.flatMap_cons] at h
    rcases List.append_eq_append_iff.mp h with ⟨p, hpre, hl⟩ | ⟨p, ha, hl⟩
    · exact hlater p hl hpre
    · cases p with
      | nil => exact hlater [] hl.symm (by simp [ha])
      | cons m' q =>
        obtain ⟨rfl, _⟩ := List.cons.inj hl
        exact ⟨[], a, l, pre, q, rfl, ha, rfl⟩

namespace Compilation

section
variable (r : Renderer V D) (cells : List (Cell V))

theorem table_over_ofCells :
    (ofCells r cells).table.Over (cells.map Cell.block) (Level.Cut (cells.map Cell.block)) :=
  GroupTable.cut_build _

theorem steps_ofCells : let c := ofCells r cells
    Pass.Steps r cells c.segments c.cells ∧
      c.segments.map Segment.group = c.table.reverse.flatMap Level.nonEmpty :=
  Pass.steps_runLevels r _ cells (table_over_ofCells r cells).levels

theorem mem_groups {g : Group} : let c := ofCells r cells
    g ∈ c.segments.map Segment.group ↔ ∃ l ∈ c.table, g ∈ l.nonEmpty := by
  intro c
  rw [(steps_ofCells r cells).2]
  simp only [List.mem_flatMap, List.mem_reverse]
  rfl

theorem exists_segment (id : Nat) (b : Block) (hb : (cells.map Cell.block)[id]? = some b) :
    ∃ s ∈ (ofCells r cells).segments, id ∈ s.group := by
  obtain ⟨l, hl, _, g, hg, hid⟩ := (table_over_ofCells r cells).exists_group hb
  obtain ⟨s, hs, rfl⟩ := List.mem_map.mp ((mem_groups r cells).mpr ⟨l, hl, hg⟩)
  exact ⟨s, hs, hid⟩

theorem filter_group {l : Level} (hl : l ∈ (ofCells r cells).table) {g : Group}
    (hg : g ∈ l.nonEmpty) :
    ∃ s, (ofCells r cells).segments.filter (·.group = g) = [s] := by
  have hnodup : ((ofCells r cells).segments.map Segment.group).Nodup := by
    rw [(steps_ofCells r cells).2]
    exact (table_over_ofCells r cells).nodup_groups
  obtain ⟨s, hs, hsg⟩ := List.mem_map.mp ((mem_groups r cells).mpr ⟨l, hl, hg⟩)
  refine ⟨s, eq_singleton_of_nodup ((List.Nodup.of_map _ hnodup).filter _) fun s' => ?_⟩
  rw [List.mem_filter, decide_eq_true_iff]
  constructor
  · rintro ⟨hs', hsg'⟩
    exact List.inj_on_of_nodup_map hnodup hs' hs (hsg'.trans hsg.symm)
  · rintro rfl
    exact ⟨hs, hsg⟩

theorem pairwise_depth : (ofCells r cells).segments.Pairwise fun s s' =>
    Group.AsDeep (cells.map Cell.block) s.group s'.group := by
  have h := (table_over_ofCells r cells).pairwise_groups
  rw [← (steps_ofCells r cells).2] at h
  exact List.pairwise_map.mp h

/-- a message 507 comes from a segment, after the messages of the segments before it -/
theorem segment_of_notice {pre post : List Diagnostic} {m : Diagnostic}
    (h : (ofCells r cells).notices = pre ++ m :: post) (hcode : m.code = 507) :
    ∃ ss s ss', (ofCells r cells).segments = ss ++ s :: ss' ∧ m ∈ s.notices ∧
      ss.flatMap Segment.notices ⊆ pre := by
  have hwarning : m ∉ (ofCells r cells).unattached.map fun x =>
      (Problem.unattached x.2).on [x.1] := by
    intro hm
    obtain ⟨_, _, rfl⟩ := List.mem_map.mp hm
    cases hcode
  rcases List.append_eq_append_iff.mp h with ⟨p, _, hl⟩ | ⟨p, hsegments, hl⟩
  · refine absurd ?_ hwarning
    show m ∈ List.map _ _
    rw [hl]
    simp
  · cases p with
    | nil =>
      refine absurd ?_ hwarning
      show m ∈ List.map _ _
      rw [← List.nil_append (List.map _ _), ← hl]
      exact List.mem_cons_self
    | cons m' q =>
      obtain ⟨rfl, _⟩ := List.cons.inj hl
      obtain ⟨ss, s, ss', p, q, hss, hs, rfl⟩ := exists_of_flatMap_eq_append_cons hsegments
      refine ⟨ss, s, ss', hss, ?_, List.subset_append_left _ _⟩
      rw [hs]
      simp

end

/-- **A pass over blocks in any state.**  Blocks that have left `unset` stay as they are.  Every
group has one segment, and that comes to a call of the renderer, or to the message 508, or to the
message 509.  A message 507 about a block comes after a message 509 about it.  And a block that is
unset at the end is named by the message 509 of the segment of its group. -/
theorem ofCells_states (r : Renderer V D) (cells : List (Cell V)) :
    let c := ofCells r cells
    (c.blocks = cells.map Cell.block ∧ ∀ (id : Nat) (cell : Cell V), cells[id]? = some cell →
      cell.state ≠ .unset → c.cells[id]? = some cell) ∧
    (∀ l ∈ c.table, ∀ g ∈ l.nonEmpty, ∃ s, c.segments.filter (·.group = g) = [s] ∧
      s.calls.length + s.count 508 + s.count 509 = 1) ∧
    (∀ s ∈ c.segments, (∃ l ∈ c.table, s.group ∈ l.nonEmpty) ∧
      ∀ kind u v log, s.outcome = .rendered kind u v log → r.unit kind u = (v, log)) ∧
    (∀ pre m post, c.notices = pre ++ m :: post → m.code = 507 → ∀ id ∈ m.blocks,
      ∃ m' ∈ pre, m'.code = 509 ∧ id ∈ m'.blocks) ∧
    ∀ (id : Nat) (cell : Cell V), c.cells[id]? = some cell → cell.state = .unset →
      ∃ s ∈ c.segments, id ∈ s.group ∧ s.Names id := by
  intro c
  have hsteps := (steps_ofCells r cells).1
  refine ⟨⟨hsteps.blocks_eq, fun id cell hc hu => hsteps.kept hc hu⟩, ?_, ?_, ?_, ?_⟩
  · intro l hl g hg
    obtain ⟨s, hs⟩ := filter_group r cells hl hg
    exact ⟨s, hs, s.calls_add_count⟩
  · intro s hs
    refine ⟨(mem_groups r cells).mp (List.mem_map_of_mem hs), fun kind u v log hout => ?_⟩
    obtain ⟨mid, hstep⟩ := hsteps.exists_step_of_mem hs
    rw [hstep.outcome_eq] at hout
    exact (Segment.outcomeOf_eq_rendered hout).2
  · intro pre m post h hcode id hid
    obtain ⟨ss, s, ss', hss, hm, hsub⟩ := segment_of_notice r cells h hcode
    obtain ⟨i, hi, rfl⟩ := s.mem_misplaced_of_notice hm hcode
    obtain rfl : id = i := List.mem_singleton.mp hid
    have hdepth := pairwise_depth r cells
    have hgroup := exists_segment r cells
    rw [hss] at hsteps hdepth hgroup
    obtain ⟨s', hs', m', hm', hcode', hid'⟩ := hsteps.names_before hdepth hgroup hi
    exact ⟨m', hsub (List.mem_flatMap.mpr ⟨s', hs', hm'⟩), hcode', hid'⟩
  · intro id cell hc hu
    have hb : (cells.map Cell.block)[id]? = some cell.block := by
      rw [← hsteps.blocks_eq, List.getElem?_map, hc]
      rfl
    obtain ⟨s, hs, hid⟩ := exists_segment r cells id _ hb
    exact ⟨s, hs, hid, hsteps.names hs hid hc hu⟩

/-- the group of the blocks 1 and 3 has a value at its head, so block 3 is left behind, and the group
of block 0 meets it -/
example : ((ofCells Renderer.anchorIds [⟨⟨0, [], 0⟩, .unset⟩, ⟨⟨1, [], 1⟩, .value 1⟩,
    ⟨⟨2, [], 2⟩, .value 2⟩, ⟨⟨1, [], 3⟩, .unset⟩]).notices.map fun m => (m.code, m.blocks)) =
    [(508, []), (509, [2, 3]), (507, [3]), (429, [2])] := by
  decide

end Compilation

end QuestScript
