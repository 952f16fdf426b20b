import QuestScript.Proofs.Render.Heading
import Mathlib.Order.Monotone.Basic
import Mathlib.Order.Basic

/-!
# Other depths for the blocks

A pass compares depths with each other and does nothing else with them.  So where a strictly
increasing function takes the depths of the blocks to others, and the renderer does not look at
depths, the pass goes on as before: the levels have the other depths, and of the messages only 429
tells the difference.

* `Block.reindent`, `Cell.reindent`, `Level.reindent`, `Segment.reindent`  the parts of a render at
  other depths;
* `GroupTable.build_reindent`    the table of the blocks;
* `Segment.render_reindent`, `Segment.apply_reindent`  one segment;
* `Pass.runLevels_reindent`      all levels;
* `Compilation.ofCells_reindent`  a whole render.
-/

namespace QuestScript

variable {V D : Type}

/-! ## the parts of a render -/

def Block.reindent (f : Nat → Nat) (b : Block) : Block := ⟨f b.indent, b.lines, b.startLine⟩

def Cell.reindent (f : Nat → Nat) (c : Cell V) : Cell V := ⟨c.block.reindent f, c.state⟩

def Member.reindent (f : Nat → Nat) : Member V → Member V
  | .own id b => .own id (b.reindent f)
  | @Member.folded _ id b v => @Member.folded _ id (b.reindent f) v

def RenderUnit.reindent (f : Nat → Nat) (u : RenderUnit V) : RenderUnit V :=
  ⟨u.anchorId, u.anchor.reindent f, u.rest.map (Member.reindent f)⟩

def Outcome.reindent (f : Nat → Nat) : Outcome V → Outcome V
  | .rendered kind u v log => .rendered kind (u.reindent f) v log
  | .empty => .empty
  | .anchorTaken => .anchorTaken

def Segment.reindent (f : Nat → Nat) (s : Segment V) : Segment V :=
  ⟨s.group, s.members.map (Member.reindent f), s.misplaced, s.outcome.reindent f⟩

def Pass.reindent (f : Nat → Nat) (p : Pass V) : Pass V :=
  ⟨p.segments.map (Segment.reindent f), p.cells.map (Cell.reindent f)⟩

def Level.reindent (f : Nat → Nat) (l : Level) : Level := ⟨f l.depth, l.closed, l.current⟩

/-- the renderer does not look at depths -/
def Renderer.IgnoresIndents (r : Renderer V D) : Prop :=
  ∀ f kind u, r.unit kind (u.reindent f) = r.unit kind u

variable {f : Nat → Nat}

theorem Member.id_reindent (m : Member V) : (m.reindent f).id = m.id := by cases m <;> rfl

theorem Member.isFolded_reindent (m : Member V) : (m.reindent f).isFolded = m.isFolded := by
  cases m <;> rfl

theorem Member.map_id_reindent (ms : List (Member V)) :
    (ms.map (Member.reindent f)).map Member.id = ms.map Member.id := by
  rw [List.map_map]
  exact List.map_congr_left fun m _ => Member.id_reindent m

theorem RenderUnit.ids_reindent (u : RenderUnit V) : (u.reindent f).ids = u.ids :=
  congrArg (u.anchorId :: ·) (Member.map_id_reindent u.rest)

theorem Outcome.log_reindent (o : Outcome V) : (o.reindent f).log = o.log := by cases o <;> rfl

/-! ## the table -/

namespace Level

theorem close_reindent (l : Level) : (l.reindent f).close = l.close.reindent f :=
  (apply_ite (reindent f) _ l ⟨l.depth, l.closed ++ [l.current], []⟩).symm

theorem map_close_reindent (ls : List Level) :
    (ls.map (reindent f)).map close = (ls.map close).map (reindent f) := by
  rw [List.map_map, List.map_map]
  exact List.map_congr_left fun l _ => close_reindent l

theorem add_reindent (l : Level) (id : Nat) (b : Block) (last : Bool) :
    (l.reindent f).add id (b.reindent f) last = (l.add id b last).reindent f := by
  have hheader : (b.reindent f).isHeader = b.isHeader := rfl
  have hisolated : (b.reindent f).isIsolated = b.isIsolated := rfl
  have hopen : (if b.isHeader then (l.reindent f).close else l.reindent f) =
      (if b.isHeader then l.close else l).reindent f := by
    rw [close_reindent, apply_ite (reindent f)]
  unfold add
  rw [hheader, hisolated, hopen]
  generalize (if b.isHeader then l.close else l) = m
  dsimp only
  split
  · exact close_reindent ⟨m.depth, m.closed, m.current ++ [id]⟩
  · rfl

theorem nonEmpty_reindent (l : Level) : (l.reindent f).nonEmpty = l.nonEmpty := rfl

theorem anchors_reindent (l : Level) : (l.reindent f).anchors = l.anchors := rfl

end Level

namespace GroupTable

theorem anchors_reindent (table : GroupTable) :
    anchors (table.map (Level.reindent f)) = anchors table := by
  unfold anchors
  rw [List.flatMap_map]
  rfl

theorem roots_reindent (table : GroupTable) :
    roots (table.map (Level.reindent f)) = roots table := by
  cases table <;> rfl

section
variable (hf : StrictMono f)
include hf

theorem add_reindent (id : Nat) (b : Block) (last : Bool) (table : GroupTable) :
    add id (b.reindent f) last (table.map (Level.reindent f)) =
      (add id b last table).map (Level.reindent f) := by
  have hnew : Level.add ⟨f b.indent, [], []⟩ id (b.reindent f) last =
      (Level.add ⟨b.indent, [], []⟩ id b last).reindent f :=
    Level.add_reindent ⟨b.indent, [], []⟩ id b last
  induction table with
  | nil => exact congrArg (fun l => [l]) hnew
  | cons l ls ih =>
    have hlt : (l.reindent f).depth < (b.reindent f).indent ↔ l.depth < b.indent := hf.lt_iff_lt
    have heq : (l.reindent f).depth = (b.reindent f).indent ↔ l.depth = b.indent :=
      hf.injective.eq_iff
    rw [List.map_cons, add, add]
    simp only [hlt, heq]
    split
    · rw [ih, List.map_cons]
    · split
      · rw [Level.add_reindent, Level.map_close_reindent, List.map_cons]
      · rw [← List.map_cons, Level.map_close_reindent, List.map_cons]
        exact congrArg (· :: _) hnew

theorem addAll_reindent (blocks : List Block) : ∀ (table : GroupTable) (id : Nat),
    addAll (table.map (Level.reindent f)) id (blocks.map (Block.reindent f)) =
      (addAll table id blocks).map (Level.reindent f) := by
  induction blocks with
  | nil => intro table id; rfl
  | cons b bs ih =>
    intro table id
    rw [List.map_cons, addAll, addAll, List.isEmpty_map, add_reindent hf, ih]

/-- the table of blocks at other depths has the same groups -/
theorem build_reindent (blocks : List Block) : build (blocks.map (Block.reindent f)) =
    (build blocks).map (Level.reindent f) := addAll_reindent hf blocks [] 0

end

end GroupTable

/-! ## one segment -/

namespace Segment

section
variable (hf : StrictMono f)
include hf

theorem extension_reindent (cells : List (Cell V)) (next : Option Nat) (base stop : Nat) :
    extension (cells.map (Cell.reindent f)) (next.map f) (f base) stop =
      (extension cells next base stop).map (Cell.reindent f) := by
  have hnext : (((cells.drop (stop + 1)).map (Cell.reindent f)).head?.map (·.block.indent) ==
      next.map f) = ((cells.drop (stop + 1)).head?.map (·.block.indent) == next) := by
    have hhead : ((cells.drop (stop + 1)).map (Cell.reindent f)).head?.map (·.block.indent) =
        ((cells.drop (stop + 1)).head?.map (·.block.indent)).map f := by
      rw [List.head?_map, Option.map_map, Option.map_map]
      rfl
    rw [hhead, Bool.eq_iff_iff, beq_iff_eq, beq_iff_eq]
    exact (Option.map_injective hf.injective).eq_iff
  have hdeeper : (fun c : Cell V => decide (f base < c.block.indent)) ∘ Cell.reindent f =
      fun c => decide (base < c.block.indent) :=
    funext fun c => decide_eq_decide.mpr hf.lt_iff_lt
  unfold extension
  dsimp only
  rw [← List.map_drop, hnext, Option.isSome_map, List.takeWhile_map, hdeeper]
  split <;> rfl

theorem span_reindent (cells : List (Cell V)) (next : Option Nat) (base start stop : Nat) :
    span (cells.map (Cell.reindent f)) (next.map f) (f base) start stop =
      (span cells next base start stop).map (Prod.map (Cell.reindent f) id) := by
  unfold span
  rw [extension_reindent hf, ← List.map_drop, ← List.map_take, ← List.map_append,
    ← List.zipIdx_map]

theorem member?_reindent (next : Option Nat) (x : Cell V × Nat) :
    member? (next.map f) (Prod.map (Cell.reindent f) id x) =
      (member? next x).map (Member.reindent f) := by
  obtain ⟨⟨b, s⟩, id⟩ := x
  cases s with
  | unset => rfl
  | seen => rfl
  | value v =>
    have hnext : some (f b.indent) = next.map f ↔ some b.indent = next :=
      (Option.map_injective hf.injective).eq_iff (a := some b.indent)
    show (if some (f b.indent) = next.map f then some (@Member.folded V id (b.reindent f) v)
        else none) =
      (if some b.indent = next then some (@Member.folded V id b v) else none).map
        (Member.reindent f)
    simp only [hnext]
    split <;> rfl

theorem misplaced?_reindent (base : Nat) (x : Cell V × Nat) :
    misplaced? (f base) (Prod.map (Cell.reindent f) id x) = misplaced? base x := by
  obtain ⟨⟨b, s⟩, id⟩ := x
  cases s with
  | unset =>
    show (if f b.indent = f base then none else some id) = if b.indent = base then none else some id
    simp only [hf.injective.eq_iff]
  | seen => rfl
  | value v => rfl

end

section
variable {r : Renderer V D} (hr : r.IgnoresIndents)
include hr

theorem outcomeOf_reindent (ms : List (Member V)) :
    outcomeOf r (ms.map (Member.reindent f)) = (outcomeOf r ms).reindent f := by
  cases ms with
  | nil => rfl
  | cons m rest =>
    cases m with
    | folded id v => rfl
    | own id b =>
      have hu : (⟨id, b.reindent f, if b.kind = .root then [] else rest.map (Member.reindent f)⟩ :
          RenderUnit V) = RenderUnit.reindent f ⟨id, b, if b.kind = .root then [] else rest⟩ := by
        unfold RenderUnit.reindent
        split <;> rfl
      show (let u : RenderUnit V :=
          ⟨id, b.reindent f, if b.kind = .root then [] else rest.map (Member.reindent f)⟩
        Outcome.rendered b.kind u (r.unit b.kind u).1 (r.unit b.kind u).2) = _
      dsimp only
      rw [hu, hr]
      rfl

/-- the segment of a group -/
theorem render_reindent (hf : StrictMono f) (next : Option Nat) (cells : List (Cell V)) (base : Nat)
    (g : Group) (start stop : Nat) :
    render r (next.map f) (cells.map (Cell.reindent f)) (f base) g start stop =
      (render r next cells base g start stop).reindent f := by
  have hmembers : ((span cells next base start stop).map (Prod.map (Cell.reindent f) id)).filterMap
      (member? (next.map f)) = ((span cells next base start stop).filterMap (member? next)).map
        (Member.reindent f) := by
    rw [List.filterMap_map, List.map_filterMap]
    exact List.filterMap_congr fun x _ => member?_reindent hf next x
  have hmisplaced : ((span cells next base start stop).map
      (Prod.map (Cell.reindent f) id)).filterMap (misplaced? (f base)) =
        (span cells next base start stop).filterMap (misplaced? base) := by
    rw [List.filterMap_map]
    exact List.filterMap_congr fun x _ => misplaced?_reindent hf base x
  unfold render
  dsimp only
  rw [span_reindent hf, hmembers, hmisplaced, outcomeOf_reindent hr]
  rfl

end

theorem outcome_reindent (s : Segment V) : (s.reindent f).outcome = s.outcome.reindent f := rfl

theorem ids_reindent (s : Segment V) :
    (s.reindent f).members.map Member.id = s.members.map Member.id :=
  Member.map_id_reindent s.members

theorem stateAfter_reindent (s : Segment V) : (s.reindent f).stateAfter = s.stateAfter := by
  funext id old
  unfold stateAfter
  rw [ids_reindent, outcome_reindent]
  cases s.outcome <;> rfl

/-- the cells after a segment -/
theorem apply_reindent (s : Segment V) (cells : List (Cell V)) :
    (s.reindent f).apply (cells.map (Cell.reindent f)) = (s.apply cells).map (Cell.reindent f) := by
  apply List.ext_getElem?
  intro id
  unfold apply
  rw [stateAfter_reindent, List.getElem?_mapIdx, List.getElem?_map, List.getElem?_map,
    List.getElem?_mapIdx]
  cases cells[id]? <;> rfl

theorem folded_reindent (s : Segment V) : (s.reindent f).folded = s.folded := by
  have hfilter : Member.isFolded ∘ Member.reindent f = Member.isFolded (V := V) :=
    funext Member.isFolded_reindent
  have hids : ((s.reindent f).members.filter Member.isFolded).map Member.id =
      (s.members.filter Member.isFolded).map Member.id := by
    show ((s.members.map (Member.reindent f)).filter Member.isFolded).map Member.id = _
    rw [List.filter_map, hfilter, Member.map_id_reindent]
  unfold folded
  rw [outcome_reindent, hids]
  cases s.outcome <;> rfl

theorem notices_reindent (s : Segment V) : (s.reindent f).notices = s.notices := by
  have hlength : (s.reindent f).members.length = s.members.length := List.length_map _
  unfold notices
  rw [ids_reindent, hlength, outcome_reindent]
  cases s.outcome <;> rfl

theorem diagnostics_reindent (s : Segment V) : (s.reindent f).diagnostics = s.diagnostics := by
  unfold diagnostics
  rw [notices_reindent]
  exact congrArg (s.notices ++ ·) (Outcome.log_reindent s.outcome)

theorem calls_reindent (s : Segment V) :
    (s.reindent f).calls = s.calls.map (Prod.map id (RenderUnit.reindent f)) := by
  unfold calls
  rw [outcome_reindent]
  cases s.outcome <;> rfl

end Segment

/-! ## a pass -/

namespace Pass

theorem folded_reindent (p : Pass V) : (p.reindent f).folded = p.folded := by
  unfold folded
  show (p.segments.map (Segment.reindent f)).flatMap Segment.folded = _
  rw [List.flatMap_map]
  exact List.flatMap_congr fun s _ => Segment.folded_reindent s

theorem roots_reindent (p : Pass V) (table : GroupTable) :
    (p.reindent f).roots (table.map (Level.reindent f)) = p.roots table := by
  have hvalue : (p.reindent f).value? = p.value? := by
    funext id
    unfold value?
    show (p.cells.map (Cell.reindent f))[id]?.bind _ = _
    rw [List.getElem?_map]
    cases p.cells[id]? <;> rfl
  unfold roots
  rw [GroupTable.roots_reindent, hvalue]

/-- the anchors that are not attached are the same, but their depths are not -/
theorem unattached_reindent (p : Pass V) (table : GroupTable) :
    (p.reindent f).unattached (table.map (Level.reindent f)) =
      (p.unattached table).map (Prod.map id f) := by
  unfold unattached
  dsimp only
  rw [folded_reindent, ← List.map_tail, GroupTable.anchors_reindent]
  show (p.cells.map (Cell.reindent f)).zipIdx.filterMap _ = _
  rw [List.zipIdx_map, List.filterMap_map, List.map_filterMap]
  refine List.filterMap_congr ?_
  rintro ⟨c, i⟩ _
  exact (apply_ite (Option.map (Prod.map id f)) _ (some (i, c.block.indent)) none).symm

variable {r : Renderer V D} (hr : r.IgnoresIndents) (hf : StrictMono f)
include hr hf

theorem runGroups_reindent (next : Option Nat) (depth : Nat) (groups : List Group) :
    ∀ cells : List (Cell V),
      runGroups r (next.map f) (f depth) (cells.map (Cell.reindent f)) groups =
        (runGroups r next depth cells groups).reindent f := by
  induction groups with
  | nil => intro cells; rfl
  | cons g groups ih =>
    intro cells
    unfold runGroups
    cases g.head? with
    | none => exact ih cells
    | some start =>
      cases g.getLast? with
      | none => exact ih cells
      | some stop =>
        dsimp only
        rw [Segment.render_reindent hr hf, Segment.apply_reindent, ih]
        rfl

theorem runLevels_reindent (levels : List Level) (cells : List (Cell V)) :
    runLevels r (cells.map (Cell.reindent f)) (levels.map (Level.reindent f)) =
      (runLevels r cells levels).reindent f := by
  induction levels with
  | nil => rfl
  | cons l deeper ih =>
    have hnext : (deeper.map (Level.reindent f)).head?.map Level.depth =
        (deeper.head?.map Level.depth).map f := by
      cases deeper <;> rfl
    rw [List.map_cons]
    unfold runLevels
    dsimp only
    rw [ih, hnext, Level.nonEmpty_reindent, Pass.reindent]
    dsimp only [Level.reindent]
    rw [runGroups_reindent hr hf]
    simp only [Pass.reindent, List.map_append]

end Pass

/-! ## a whole render -/

namespace Compilation

/-- **Only the order of depths matters.**  Where the depths of the blocks are taken to others by a
strictly increasing function, and the renderer does not look at depths, a render finds the same
groups at the other depths.  It calls the renderer for the same units, leaves the blocks in the same
states, and comes to the same values at the least depth and the same document.  The messages are the
same, but that 429 names the other depth. -/
theorem ofCells_reindent {r : Renderer V D} (hr : r.IgnoresIndents) (hf : StrictMono f)
    (cells : List (Cell V)) :
    let c := ofCells r cells
    let c' := ofCells r (cells.map (Cell.reindent f))
    c'.table = c.table.map (Level.reindent f) ∧
    (c'.calls = c.calls.map (Prod.map id (RenderUnit.reindent f)) ∧
      c'.calls.map (fun call => (call.1, call.2.ids)) =
        c.calls.map fun call => (call.1, call.2.ids)) ∧
    c'.cells.map Cell.state = c.cells.map Cell.state ∧
    c'.roots = c.roots ∧
    c'.document = c.document ∧
    ∃ before after, c.diagnostics = before ++
        c.unattached.map (fun (id, depth) => (Problem.unattached depth).on [id]) ++ after ∧
      c'.diagnostics = before ++
        c.unattached.map (fun (id, depth) => (Problem.unattached (f depth)).on [id]) ++ after := by
  intro c c'
  have hblocks : (cells.map (Cell.reindent f)).map Cell.block =
      (cells.map Cell.block).map (Block.reindent f) := by
    rw [List.map_map, List.map_map]
    rfl
  have htable : c'.table = c.table.map (Level.reindent f) := by
    show GroupTable.build _ = _
    rw [hblocks, GroupTable.build_reindent hf]
    rfl
  have hpass : Pass.runLevels r (cells.map (Cell.reindent f)) c'.table =
      (Pass.runLevels r cells c.table).reindent f := by
    rw [htable, Pass.runLevels_reindent hr hf]
  have hsegments : c'.segments = c.segments.map (Segment.reindent f) :=
    congrArg Pass.segments hpass
  have hcells : c'.cells = c.cells.map (Cell.reindent f) := congrArg Pass.cells hpass
  have hroots : c'.roots = c.roots := by
    show (Pass.runLevels r _ c'.table).roots c'.table = _
    rw [hpass, htable, Pass.roots_reindent]
    rfl
  have hunattached : c'.unattached = c.unattached.map (Prod.map id f) := by
    show (Pass.runLevels r _ c'.table).unattached c'.table = _
    rw [hpass, htable, Pass.unattached_reindent]
    rfl
  have hcalls : c'.calls = c.calls.map (Prod.map id (RenderUnit.reindent f)) := by
    unfold calls
    rw [hsegments, List.flatMap_map, List.map_flatMap]
    exact List.flatMap_congr fun s _ => Segment.calls_reindent s
  have hdocument : r.document c'.roots = r.document c.roots := congrArg r.document hroots
  have hdiagnostics : c'.segments.flatMap Segment.diagnostics =
      c.segments.flatMap Segment.diagnostics := by
    rw [hsegments, List.flatMap_map]
    exact List.flatMap_congr fun s _ => Segment.diagnostics_reindent s
  refine ⟨htable, ⟨hcalls, ?_⟩, ?_, hroots, congrArg Prod.fst hdocument,
    c.segments.flatMap Segment.diagnostics, (r.document c.roots).2, rfl, ?_⟩
  · rw [hcalls, List.map_map]
    exact List.map_congr_left fun call _ => congrArg (call.1, ·) (RenderUnit.ids_reindent call.2)
  · rw [hcells, List.map_map]
    rfl
  · show c'.segments.flatMap Segment.diagnostics ++ c'.unattached.map _ ++
      (r.document c'.roots).2 = _
    rw [hdiagnostics, hunattached, hdocument, List.map_map]
    rfl

/-- the depths 0, 1 and 2 as 1, 4 and 7: block 1 and its value stay where they are, and what is said
about block 2 has the depth 7 -/
theorem ofCells_reindent_of_sparse_depths :
    let r := Renderer.anchorIds
    let f := fun n => 3 * n + 1
    let cells : List (Cell Nat) := [⟨⟨0, [], 0⟩, .unset⟩, ⟨⟨1, [], 1⟩, .value 1⟩,
      ⟨⟨2, [], 2⟩, .value 2⟩, ⟨⟨1, [], 3⟩, .unset⟩]
    r.IgnoresIndents ∧ StrictMono f ∧
      (ofCells r (cells.map (Cell.reindent f))).roots = (ofCells r cells).roots ∧
      (ofCells r cells).unattached = [(2, 2)] ∧
      (Problem.unattached 7).on [2] ∈ (ofCells r (cells.map (Cell.reindent f))).diagnostics := by
  intro r f cells
  have hr : r.IgnoresIndents := fun _ _ _ => rfl
  have hf : StrictMono f := fun m n hmn => by
    show 3 * m + 1 < 3 * n + 1
    omega
  obtain ⟨_, _, _, hroots, _, before, after, _, hdiagnostics⟩ := ofCells_reindent hr hf cells
  have hunattached : (ofCells r cells).unattached = [(2, 2)] := by decide
  refine ⟨hr, hf, hroots, hunattached, ?_⟩
  rw [hdiagnostics, hunattached]
  exact List.mem_append_left _ (List.mem_append_right _ List.mem_cons_self)

end Compilation

end QuestScript
