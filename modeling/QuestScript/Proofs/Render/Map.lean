import QuestScript.Compilation
import Mathlib.Data.List.Basic
import Mathlib.Data.List.TakeWhile

/-!
# A render in another type of values

Where a function `φ` takes the values of one renderer to those of another (`Renderer.Maps`), it takes
the whole render to that of the other renderer:

* `Cell.map`, `RenderUnit.map`, `Segment.map`, `Pass.map`, `Compilation.map`  the parts of a render
  with `φ` on every value;
* `Segment.render_map`, `Segment.apply_map`  one segment;
* `Pass.runGroups_map`, `Pass.runLevels_map`  the groups of a level, and all levels;
* `Compilation.ofCells_map`  a whole render.
-/

namespace QuestScript

variable {V W D E : Type}

/-! ## the parts of a render -/

def RenderState.map (φ : V → W) : RenderState V → RenderState W
  | .unset => .unset
  | .seen => .seen
  | .value v => .value (φ v)

def Cell.map (φ : V → W) (c : Cell V) : Cell W := ⟨c.block, c.state.map φ⟩

def Member.map (φ : V → W) : Member V → Member W
  | .own id b => .own id b
  | @Member.folded _ id b v => @Member.folded _ id b (φ v)

def RenderUnit.map (φ : V → W) (u : RenderUnit V) : RenderUnit W :=
  ⟨u.anchorId, u.anchor, u.rest.map (Member.map φ)⟩

def Outcome.map (φ : V → W) : Outcome V → Outcome W
  | .rendered kind u v log => .rendered kind (u.map φ) (φ v) log
  | .empty => .empty
  | .anchorTaken => .anchorTaken

def Segment.map (φ : V → W) (s : Segment V) : Segment W :=
  ⟨s.group, s.members.map (Member.map φ), s.misplaced, s.outcome.map φ⟩

def Pass.map (φ : V → W) (p : Pass V) : Pass W :=
  ⟨p.segments.map (Segment.map φ), p.cells.map (Cell.map φ)⟩

def Compilation.map (φ : V → W) (ψ : D → E) (c : Compilation V D) : Compilation W E where
  cells := c.cells.map (Cell.map φ)
  table := c.table
  segments := c.segments.map (Segment.map φ)
  unattached := c.unattached
  roots := c.roots.map φ
  document := ψ c.document
  diagnostics := c.diagnostics

/-- `φ` takes the values of `r` to those of `r'`, and `ψ` the documents; the messages are the same -/
structure Renderer.Maps (φ : V → W) (ψ : D → E) (r : Renderer V D) (r' : Renderer W E) : Prop where
  unit : ∀ kind u, r'.unit kind (u.map φ) = (φ (r.unit kind u).1, (r.unit kind u).2)
  document : ∀ vs, r'.document (vs.map φ) = (ψ (r.document vs).1, (r.document vs).2)

variable {φ : V → W}

theorem RenderState.value?_map (s : RenderState V) : (s.map φ).value? = s.value?.map φ := by
  cases s <;> rfl

theorem Member.id_map (m : Member V) : (m.map φ).id = m.id := by cases m <;> rfl

theorem Member.isFolded_map (m : Member V) : (m.map φ).isFolded = m.isFolded := by cases m <;> rfl

theorem Outcome.log_map (o : Outcome V) : (o.map φ).log = o.log := by cases o <;> rfl

/-! ## one segment -/

namespace Segment

theorem outcome_map (s : Segment V) : (s.map φ).outcome = s.outcome.map φ := rfl

theorem ids_map (s : Segment V) :
    (s.map φ).members.map Member.id = s.members.map Member.id := by
  show (s.members.map (Member.map φ)).map Member.id = _
  rw [List.map_map]
  exact List.map_congr_left fun m _ => Member.id_map m

theorem extension_map (cells : List (Cell V)) (next : Option Nat) (base stop : Nat) :
    extension (cells.map (Cell.map φ)) next base stop =
      (extension cells next base stop).map (Cell.map φ) := by
  unfold extension
  dsimp only
  rw [← List.map_drop, List.head?_map, Option.map_map, List.takeWhile_map]
  show (if next.isSome && (cells.drop (stop + 1)).head?.map (·.block.indent) == next then
    ((cells.drop (stop + 1)).takeWhile (base < ·.block.indent)).map (Cell.map φ) else []) = _
  split <;> rfl

theorem span_map (cells : List (Cell V)) (next : Option Nat) (base start stop : Nat) :
    span (cells.map (Cell.map φ)) next base start stop =
      (span cells next base start stop).map (Prod.map (Cell.map φ) id) := by
  unfold span
  rw [extension_map, ← List.map_drop, ← List.map_take, ← List.map_append, ← List.zipIdx_map]

theorem member?_map (next : Option Nat) (x : Cell V × Nat) :
    member? next (Prod.map (Cell.map φ) id x) = (member? next x).map (Member.map φ) := by
  obtain ⟨⟨b, s⟩, id⟩ := x
  cases s with
  | unset => rfl
  | seen => rfl
  | value v =>
    show (if some b.indent = next then some (@Member.folded W id b (φ v)) else none) =
      (if some b.indent = next then some (@Member.folded V id b v) else none).map (Member.map φ)
    split <;> rfl

theorem misplaced?_map (base : Nat) (x : Cell V × Nat) :
    misplaced? base (Prod.map (Cell.map φ) id x) = misplaced? base x := by
  obtain ⟨⟨b, s⟩, id⟩ := x
  cases s <;> rfl

variable {ψ : D → E} {r : Renderer V D} {r' : Renderer W E} (h : r.Maps φ ψ r')
include h

theorem outcomeOf_map (ms : List (Member V)) :
    outcomeOf r' (ms.map (Member.map φ)) = (outcomeOf r ms).map φ := by
  cases ms with
  | nil => rfl
  | cons m rest =>
    cases m with
    | folded id v => rfl
    | own id b =>
      have hu : (⟨id, b, if b.kind = .root then [] else rest.map (Member.map φ)⟩ : RenderUnit W) =
          RenderUnit.map φ ⟨id, b, if b.kind = .root then [] else rest⟩ := by
        unfold RenderUnit.map
        split <;> rfl
      show (let u : RenderUnit W := ⟨id, b, if b.kind = .root then [] else rest.map (Member.map φ)⟩
        Outcome.rendered b.kind u (r'.unit b.kind u).1 (r'.unit b.kind u).2) = _
      dsimp only
      rw [hu, h.unit]
      rfl

/-- the segment of a group -/
theorem render_map (next : Option Nat) (cells : List (Cell V)) (base : Nat) (g : Group)
    (start stop : Nat) : render r' next (cells.map (Cell.map φ)) base g start stop =
      (render r next cells base g start stop).map φ := by
  have hmembers : ((span cells next base start stop).map (Prod.map (Cell.map φ) id)).filterMap
      (member? next) = ((span cells next base start stop).filterMap (member? next)).map
        (Member.map φ) := by
    rw [List.filterMap_map, List.map_filterMap]
    exact List.filterMap_congr fun x _ => member?_map next x
  have hmisplaced : ((span cells next base start stop).map (Prod.map (Cell.map φ) id)).filterMap
      (misplaced? base) = (span cells next base start stop).filterMap (misplaced? base) := by
    rw [List.filterMap_map]
    exact List.filterMap_congr fun x _ => misplaced?_map base x
  unfold render
  dsimp only
  rw [span_map, hmembers, hmisplaced, outcomeOf_map h]
  rfl

omit h

theorem stateAfter_map (s : Segment V) (id : Nat) (old : RenderState V) :
    (s.map φ).stateAfter id (old.map φ) = (s.stateAfter id old).map φ := by
  unfold stateAfter
  rw [ids_map, outcome_map]
  cases s.outcome with
  | empty => rfl
  | anchorTaken => rfl
  | rendered kind u v log =>
    show (if id = u.anchorId then RenderState.value (φ v) else _) =
      RenderState.map φ (if id = u.anchorId then .value v else _)
    split
    · rfl
    · cases old with
      | unset =>
        show (if id ∈ s.members.map Member.id then .seen else .unset) =
          RenderState.map φ (if id ∈ s.members.map Member.id then .seen else .unset)
        split <;> rfl
      | seen => rfl
      | value w => rfl

/-- the cells after a segment -/
theorem apply_map (s : Segment V) (cells : List (Cell V)) :
    (s.map φ).apply (cells.map (Cell.map φ)) = (s.apply cells).map (Cell.map φ) := by
  apply List.ext_getElem?
  intro id
  unfold apply
  rw [List.getElem?_mapIdx, List.getElem?_map, List.getElem?_map, List.getElem?_mapIdx,
    Option.map_map, Option.map_map]
  cases cells[id]? with
  | none => rfl
  | some c =>
    show some (⟨c.block, (s.map φ).stateAfter id (c.state.map φ)⟩ : Cell W) =
      some ⟨c.block, (s.stateAfter id c.state).map φ⟩
    rw [stateAfter_map]

theorem folded_map (s : Segment V) : (s.map φ).folded = s.folded := by
  have hids : ((s.map φ).members.filter Member.isFolded).map Member.id =
      (s.members.filter Member.isFolded).map Member.id := by
    show ((s.members.map (Member.map φ)).filter Member.isFolded).map Member.id = _
    rw [List.filter_map, List.map_map]
    have hfilter : Member.isFolded ∘ Member.map φ = Member.isFolded :=
      funext fun m => Member.isFolded_map m
    rw [hfilter]
    exact List.map_congr_left fun m _ => Member.id_map m
  unfold folded
  rw [outcome_map, hids]
  cases s.outcome <;> rfl

theorem notices_map (s : Segment V) : (s.map φ).notices = s.notices := by
  have hlen : (s.map φ).members.length = s.members.length := List.length_map _
  unfold notices
  rw [ids_map, hlen, outcome_map]
  cases s.outcome <;> rfl

theorem diagnostics_map (s : Segment V) : (s.map φ).diagnostics = s.diagnostics := by
  unfold diagnostics
  rw [notices_map]
  exact congrArg (s.notices ++ ·) (Outcome.log_map s.outcome)

end Segment

/-! ## a pass -/

namespace Pass

theorem value?_map (p : Pass V) (id : Nat) : (p.map φ).value? id = (p.value? id).map φ := by
  unfold value?
  show (p.cells.map (Cell.map φ))[id]?.bind _ = _
  rw [List.getElem?_map]
  cases p.cells[id]? with
  | none => rfl
  | some c => exact RenderState.value?_map c.state

theorem roots_map (p : Pass V) (table : GroupTable) :
    (p.map φ).roots table = (p.roots table).map φ := by
  unfold roots
  rw [List.map_filterMap]
  exact List.filterMap_congr fun id _ => value?_map p id

theorem unattached_map (p : Pass V) (table : GroupTable) :
    (p.map φ).unattached table = p.unattached table := by
  have hfolded : (p.map φ).folded = p.folded := by
    unfold folded
    show (p.segments.map (Segment.map φ)).flatMap Segment.folded = _
    rw [List.flatMap_map]
    exact List.flatMap_congr fun s _ => Segment.folded_map s
  unfold unattached
  rw [hfolded]
  show (p.cells.map (Cell.map φ)).zipIdx.filterMap _ = _
  rw [List.zipIdx_map, List.filterMap_map]
  refine List.filterMap_congr ?_
  rintro ⟨c, id⟩ _
  show (if id ∈ GroupTable.anchors table.tail ∧ id ∉ p.folded ∧ (c.state.map φ).value?.isSome then
    some (id, c.block.indent) else none) = _
  rw [RenderState.value?_map, Option.isSome_map]

variable {ψ : D → E} {r : Renderer V D} {r' : Renderer W E} (h : r.Maps φ ψ r')
include h

theorem runGroups_map (next : Option Nat) (depth : Nat) (groups : List Group) :
    ∀ cells : List (Cell V), runGroups r' next depth (cells.map (Cell.map φ)) groups =
      (runGroups r next depth cells groups).map φ := by
  induction groups with
  | nil => intro cells; rfl
  | cons g groups ih =>
    intro cells
    unfold runGroups
    cases g.head? with
    | none => exact ih cells
    | some start =>
      cases g.getLast? with
      | none => exact ih cells
      | some stop =>
        dsimp only
        rw [Segment.render_map h, Segment.apply_map, ih]
        rfl

theorem runLevels_map (levels : List Level) (cells : List (Cell V)) :
    runLevels r' (cells.map (Cell.map φ)) levels = (runLevels r cells levels).map φ := by
  induction levels with
  | nil => rfl
  | cons l deeper ih =>
    unfold runLevels
    dsimp only
    rw [ih, Pass.map]
    dsimp only
    rw [runGroups_map h]
    simp only [Pass.map, List.map_append]

end Pass

/-! ## a whole render -/

theorem Compilation.value?_map {ψ : D → E} (c : Compilation V D) (id : Nat) :
    (c.map φ ψ).value? id = (c.value? id).map φ := Pass.value?_map ⟨c.segments, c.cells⟩ id

/-- **a render in another type of values** is the image of the render -/
theorem Compilation.ofCells_map {ψ : D → E} {r : Renderer V D} {r' : Renderer W E}
    (h : r.Maps φ ψ r') (cells : List (Cell V)) :
    ofCells r' (cells.map (Cell.map φ)) = (ofCells r cells).map φ ψ := by
  have hblocks : (cells.map (Cell.map φ)).map Cell.block = cells.map Cell.block := by
    rw [List.map_map]
    rfl
  have hdiagnostics (ss : List (Segment V)) :
      (ss.map (Segment.map φ)).flatMap Segment.diagnostics = ss.flatMap Segment.diagnostics := by
    rw [List.flatMap_map]
    exact List.flatMap_congr fun s _ => Segment.diagnostics_map s
  unfold ofCells
  simp only [hblocks, Pass.runLevels_map h, Pass.unattached_map, Pass.roots_map, h.document]
  simp only [Pass.map, Compilation.map, hdiagnostics]

theorem Compilation.ofBlocks_map {ψ : D → E} {r : Renderer V D} {r' : Renderer W E}
    (h : r.Maps φ ψ r') (blocks : List Block) : ofBlocks r' blocks = (ofBlocks r blocks).map φ ψ := by
  have hfresh : blocks.map Cell.fresh = (blocks.map Cell.fresh).map (Cell.map φ) := by
    rw [List.map_map]
    rfl
  unfold ofBlocks
  rw [hfresh, ofCells_map h]

end QuestScript
