import QuestScript.Proofs.Render.Settled

/-!
# Other ids for the blocks

A pass moves with its blocks: under other ids, a segment has the same members in the same order, and
its messages name the other ids.  The renderer is asked for the same: what it makes of a unit does
not depend on the ids, and its messages name the ids of the unit.

* `Segment.rename`              a segment under other ids;
* `Renderer.Renames`            the renderer does not look at ids;
* `Segment.diagnostics_rename`  the messages of a segment;
* `Segment.valueOn_rename`      the value that a segment leaves on a block.
-/

namespace QuestScript

variable {V D : Type}

def Diagnostic.rename (φ : Nat → Nat) (m : Diagnostic) : Diagnostic :=
  ⟨m.severity, m.code, m.message, m.blocks.map φ⟩

def Member.rename (φ : Nat → Nat) : Member V → Member V
  | .own id b => .own (φ id) b
  | @Member.folded _ id b v => @Member.folded _ (φ id) b v

def RenderUnit.rename (φ : Nat → Nat) (u : RenderUnit V) : RenderUnit V :=
  ⟨φ u.anchorId, u.anchor, u.rest.map (Member.rename φ)⟩

def Outcome.rename (φ : Nat → Nat) : Outcome V → Outcome V
  | .rendered kind u v log => .rendered kind (u.rename φ) v (log.map (Diagnostic.rename φ))
  | .empty => .empty
  | .anchorTaken => .anchorTaken

def Segment.rename (φ : Nat → Nat) (s : Segment V) : Segment V :=
  ⟨s.group.map φ, s.members.map (Member.rename φ), s.misplaced.map φ, s.outcome.rename φ⟩

/-- the renderer does not look at ids, but to name them in messages -/
def Renderer.Renames (r : Renderer V D) : Prop := ∀ φ kind u, r.unit kind (u.rename φ) =
  ((r.unit kind u).1, (r.unit kind u).2.map (Diagnostic.rename φ))

variable {φ : Nat → Nat}

theorem Diagnostic.rename_id : Diagnostic.rename id = id := by
  funext m
  unfold Diagnostic.rename
  rw [List.map_id]
  rfl

theorem Segment.rename_id (s : Segment V) : s.rename id = s := by
  have hmember : Member.rename id = (id : Member V → Member V) := by
    funext m
    cases m <;> rfl
  have hout : s.outcome.rename id = s.outcome := by
    cases s.outcome with
    | rendered kind u v log =>
      show Outcome.rendered kind ⟨u.anchorId, u.anchor, u.rest.map (Member.rename id)⟩ v
        (log.map (Diagnostic.rename id)) = _
      rw [hmember, List.map_id, Diagnostic.rename_id, List.map_id]
    | empty => rfl
    | anchorTaken => rfl
  unfold rename
  rw [List.map_id, hmember, List.map_id, List.map_id, hout]

theorem Member.id_rename (m : Member V) : (m.rename φ).id = φ m.id := by cases m <;> rfl

theorem Member.map_id_rename (ms : List (Member V)) :
    (ms.map (Member.rename φ)).map Member.id = (ms.map Member.id).map φ := by
  rw [List.map_map, List.map_map]
  exact List.map_congr_left fun m _ => Member.id_rename m

theorem RenderUnit.ids_rename (u : RenderUnit V) : (u.rename φ).ids = u.ids.map φ :=
  congrArg (φ u.anchorId :: ·) (Member.map_id_rename u.rest)

theorem Outcome.log_rename (o : Outcome V) :
    (o.rename φ).log = o.log.map (Diagnostic.rename φ) := by
  cases o <;> rfl

/-! ## segments -/

namespace Segment

theorem outcomeOf_rename {r : Renderer V D} (hr : r.Renames) (ms : List (Member V)) :
    outcomeOf r (ms.map (Member.rename φ)) = (outcomeOf r ms).rename φ := by
  cases ms with
  | nil => rfl
  | cons m rest =>
    cases m with
    | folded id v => rfl
    | own id b =>
      have hu : (⟨φ id, b, if b.kind = .root then [] else rest.map (Member.rename φ)⟩ :
          RenderUnit V) = RenderUnit.rename φ ⟨id, b, if b.kind = .root then [] else rest⟩ := by
        unfold RenderUnit.rename
        split <;> rfl
      show (let u : RenderUnit V :=
          ⟨φ id, b, if b.kind = .root then [] else rest.map (Member.rename φ)⟩
        Outcome.rendered b.kind u (r.unit b.kind u).1 (r.unit b.kind u).2) = _
      dsimp only
      rw [hu, hr]
      rfl

theorem notices_rename (s : Segment V) :
    (s.rename φ).notices = s.notices.map (Diagnostic.rename φ) := by
  have hids : (s.rename φ).members.map Member.id = (s.members.map Member.id).map φ :=
    Member.map_id_rename s.members
  have hmisplaced : ((s.rename φ).misplaced.map fun id => Problem.unsetOutsideBase.on [id]) =
      (s.misplaced.map fun id => Problem.unsetOutsideBase.on [id]).map (Diagnostic.rename φ) := by
    show (s.misplaced.map φ).map _ = _
    rw [List.map_map, List.map_map]
    rfl
  have hlength : (s.rename φ).members.length = s.members.length := List.length_map _
  have hout : (s.rename φ).outcome = s.outcome.rename φ := rfl
  unfold notices
  rw [List.map_append, hmisplaced, hids, hlength, hout]
  cases s.outcome with
  | rendered kind u v log =>
    dsimp only [Outcome.rename]
    split <;> rfl
  | empty => rfl
  | anchorTaken => rfl

theorem diagnostics_rename (s : Segment V) :
    (s.rename φ).diagnostics = s.diagnostics.map (Diagnostic.rename φ) := by
  unfold diagnostics
  rw [List.map_append, notices_rename]
  exact congrArg _ (Outcome.log_rename s.outcome)

/-- the value that a segment leaves on the block `id` -/
def valueOn (s : Segment V) (id : Nat) : Option V :=
  match s.outcome with
  | .rendered _ u v _ => if id = u.anchorId then some v else none
  | _ => none

theorem valueOn_rename (hφ : Function.Injective φ) (s : Segment V) (id : Nat) :
    (s.rename φ).valueOn (φ id) = s.valueOn id := by
  have hout : (s.rename φ).outcome = s.outcome.rename φ := rfl
  unfold valueOn
  rw [hout]
  cases s.outcome with
  | rendered kind u v log =>
    show (if φ id = φ u.anchorId then _ else _) = if id = u.anchorId then _ else _
    simp only [hφ.eq_iff]
  | empty => rfl
  | anchorTaken => rfl

end Segment

end QuestScript
