import QuestScript.Proofs.Card.Reading
import QuestScript.Proofs.Render.Rename

/-!
# Cards under other ids

A card is read from the texts and values of a unit alone; ids only go into messages.  So a renderer
of cards does not look at ids, whatever format it writes.

* `Roleplay.ofUnit_rename`, `CombatReading.ofUnit_rename`  the two cards that are read in steps;
* `Card.ofUnit_rename`             reading under other ids;
* `CardFormat.renderer_renames`    so a renderer of cards does not look at ids.
-/

namespace QuestScript

variable {V : Type} {φ : Nat → Nat}

namespace Roleplay

theorem addMember_rename (x : List (BodyItem V) × List Diagnostic) (m : Member V) :
    addMember (Prod.map id (List.map (Diagnostic.rename φ)) x) (m.rename φ) =
      Prod.map id (List.map (Diagnostic.rename φ)) (addMember x m) := by
  obtain ⟨body, log⟩ := x
  cases m with
  | own id b => rfl
  | @folded id b v =>
    show addMember (body, log.map _) (@Member.folded V (φ id) b v) = _
    cases h : attach? body v with
    | some body' =>
      rw [addMember_of_attach _ _ h, addMember_of_attach log id h]
      rfl
    | none =>
      rw [addMember_of_stray _ _ h, addMember_of_stray log id h, Prod.map_apply, List.map_append]
      rfl

theorem foldl_addMember_rename (ms : List (Member V)) :
    ∀ x : List (BodyItem V) × List Diagnostic,
      (ms.map (Member.rename φ)).foldl addMember
          (Prod.map id (List.map (Diagnostic.rename φ)) x) =
        Prod.map id (List.map (Diagnostic.rename φ)) (ms.foldl addMember x) := by
  induction ms with
  | nil => intro x; rfl
  | cons m ms ih =>
    intro x
    rw [List.map_cons, List.foldl_cons, List.foldl_cons, addMember_rename, ih]

theorem ofUnit_rename (u : RenderUnit V) : ofUnit (u.rename φ) =
    ((ofUnit u).1, (ofUnit u).2.map (Diagnostic.rename φ)) := by
  let items : List (BodyItem V) := itemsOfLines (splitTitle u.anchor.lines).2
  have hfold : (u.rest.map (Member.rename φ)).foldl addMember (items, []) =
      Prod.map id (List.map (Diagnostic.rename φ)) (u.rest.foldl addMember (items, [])) :=
    foldl_addMember_rename u.rest (items, [])
  rw [ofUnit_eq, ofUnit_eq]
  dsimp only [RenderUnit.rename]
  rw [hfold]
  rfl

end Roleplay

namespace CombatReading

def rename (φ : Nat → Nat) (r : CombatReading V) : CombatReading V :=
  ⟨r.card, r.isOpen, r.log.map (Diagnostic.rename φ)⟩

theorem addLine_rename (id : Nat) (r : CombatReading V) (line : Text) :
    addLine (φ id) (r.rename φ) line = (addLine id r line).rename φ := by
  unfold addLine
  cases CombatLine.ofText line with
  | enemy name =>
    show addEnemy (r.rename φ) name = (addEnemy r name).rename φ
    unfold addEnemy
    split <;> rfl
  | event on => rfl
  | unknownEvent choice =>
    simp only [rename, List.map_append]
    rfl
  | other line =>
    simp only [rename, List.map_append]
    rfl

theorem foldl_addLine_rename (id : Nat) (lines : List Text) : ∀ r : CombatReading V,
    lines.foldl (addLine (φ id)) (r.rename φ) = (lines.foldl (addLine id) r).rename φ := by
  induction lines with
  | nil => intro r; rfl
  | cons line lines ih =>
    intro r
    rw [List.foldl_cons, List.foldl_cons, addLine_rename, ih]

theorem addMember_rename (r : CombatReading V) (m : Member V) :
    addMember (r.rename φ) (m.rename φ) = (addMember r m).rename φ := by
  cases m with
  | own id b => exact foldl_addLine_rename id b.lines r
  | @folded id b v =>
    show addMember (r.rename φ) (@Member.folded V (φ id) b v) = _
    have hattached : (r.rename φ).attached? v = r.attached? v := rfl
    cases h : r.attached? v with
    | none =>
      rw [addMember_of_stray _ _ _ (hattached.trans h), addMember_of_stray r id v h]
      simp only [rename, List.map_append]
      rfl
    | some events =>
      rw [addMember_of_attached _ _ _ (hattached.trans h), addMember_of_attached r id v h]
      rfl

theorem foldl_addMember_rename (ms : List (Member V)) : ∀ r : CombatReading V,
    (ms.map (Member.rename φ)).foldl addMember (r.rename φ) =
      (ms.foldl addMember r).rename φ := by
  induction ms with
  | nil => intro r; rfl
  | cons m ms ih =>
    intro r
    rw [List.map_cons, List.foldl_cons, List.foldl_cons, addMember_rename, ih]

theorem ofUnit_rename (u : RenderUnit V) : ofUnit (u.rename φ) = (ofUnit u).rename φ := by
  unfold ofUnit
  dsimp only
  rw [← foldl_addMember_rename, ← foldl_addLine_rename]
  rfl

end CombatReading

theorem Combat.ofUnit_rename (u : RenderUnit V) : ofUnit (u.rename φ) =
    ((ofUnit u).1, (ofUnit u).2.map (Diagnostic.rename φ)) := by
  unfold ofUnit
  dsimp only
  rw [CombatReading.ofUnit_rename, List.map_append, apply_ite (List.map (Diagnostic.rename φ))]
  rfl

/-- **reading does not look at ids** -/
theorem Card.ofUnit_rename (kind : LineKind) (u : RenderUnit V) : ofUnit kind (u.rename φ) =
    ((ofUnit kind u).1, (ofUnit kind u).2.map (Diagnostic.rename φ)) := by
  cases kind with
  | root =>
    show ofQuest (u.rename φ) = ((ofQuest u).1, (ofQuest u).2.map _)
    unfold ofQuest
    show (if u.anchor.indent > 0 then _ else _) = _
    split
    · rfl
    · show (_, _) = (_, List.map _ (List.map _ _))
      rw [List.map_map]
      rfl
  | combat =>
    show (Card.combat (Combat.ofUnit (u.rename φ)).1, (Combat.ofUnit (u.rename φ)).2) = _
    rw [Combat.ofUnit_rename]
    rfl
  | trigger =>
    show ofTrigger (u.rename φ) = ((ofTrigger u).1, (ofTrigger u).2.map _)
    have hempty : (u.rename φ).rest.isEmpty = u.rest.isEmpty := List.isEmpty_map
    unfold ofTrigger
    rw [RenderUnit.ids_rename, hempty, apply_ite (List.map (Diagnostic.rename φ))]
    rfl
  | narrative =>
    show (Card.roleplay (Roleplay.ofUnit (u.rename φ)).1, (Roleplay.ofUnit (u.rename φ)).2) = _
    rw [Roleplay.ofUnit_rename]
    rfl

/-- **a renderer of cards does not look at ids** -/
theorem CardFormat.renderer_renames (f : CardFormat V) : f.renderer.Renames := by
  intro φ kind u
  show f.unit kind (u.rename φ) = ((f.unit kind u).1, (f.unit kind u).2.map _)
  rw [unit_eq, unit_eq, Card.ofUnit_rename]

end QuestScript
