import QuestScript.Card.Renderer
import QuestScript.Proofs.Render.Map
import QuestScript.Proofs.Text.Parts

/-!
# Units as cards

A renderer of cards reads a unit as a card and writes the card (`CardFormat.unit_eq`).

* `Line.IsChoice`        the lines that are choices, and their texts;
* `Card`, `Card.ofUnit`  what a unit is read as;
* `Card.placed`          the values in a card, in order;
* `Card.ofUnit_map`      reading does not look into the values;
* `Card.exists_kept`     the values in a card are those of some members of the unit, in their order,
                         and every other value is reported.
-/

namespace QuestScript

variable {V W : Type}

/-! ## choices -/

namespace Line

/-- the line is a choice: `* `, and then the text, which may have white space around it -/
def IsChoice (line text : Text) : Prop := ∃ rest, line = '*' :: ' ' :: rest ∧ text = Text.trim rest

theorem choice?_eq_some_iff {line text : Text} : choice? line = some text ↔ IsChoice line text := by
  unfold choice?
  rw [Option.map_eq_some_iff]
  exact exists_congr fun rest => and_congr Text.dropPrefix?_eq_some_iff eq_comm

theorem choice?_eq_none_iff {line : Text} : choice? line = none ↔ ∀ text, ¬IsChoice line text := by
  rw [Option.eq_none_iff_forall_not_mem]
  exact forall_congr' fun text => not_congr choice?_eq_some_iff

end Line

/-! ## cards -/

/-- what a unit is read as -/
inductive Card (V : Type) where
  | quest (header : QuestHeader)
  | roleplay (card : Roleplay V)
  | combat (card : Combat V)
  | trigger (text : Text)
  | placeholder (message : Text)

def CardFormat.write (f : CardFormat V) : Card V → V
  | .quest header => f.quest header
  | .roleplay card => f.roleplay card
  | .combat card => f.combat card
  | .trigger text => f.trigger text
  | .placeholder message => f.placeholder message

namespace Card

def ofQuest (u : RenderUnit V) : Card V × List Diagnostic :=
  if u.anchor.indent > 0 then
    (.placeholder "indented quest header", [Problem.indentedQuest.on [u.anchorId]])
  else
    (.quest (QuestHeader.ofBlock u.anchor).1,
      (QuestHeader.ofBlock u.anchor).2.map (·.on [u.anchorId]))

def ofTrigger (u : RenderUnit V) : Card V × List Diagnostic :=
  (.trigger ((u.anchor.firstLine?.bind Line.triggerText?).getD []),
    if !u.rest.isEmpty || u.anchor.lines.length > 1 then [Problem.triggerExtra.on u.ids] else [])

/-- reads a unit -/
def ofUnit (kind : LineKind) (u : RenderUnit V) : Card V × List Diagnostic :=
  match kind with
  | .root => ofQuest u
  | .combat => (.combat (Combat.ofUnit u).1, (Combat.ofUnit u).2)
  | .trigger => ofTrigger u
  | .narrative => (.roleplay (Roleplay.ofUnit u).1, (Roleplay.ofUnit u).2)

end Card

theorem CardFormat.unit_eq (f : CardFormat V) (kind : LineKind) (u : RenderUnit V) :
    f.unit kind u = (f.write (Card.ofUnit kind u).1, (Card.ofUnit kind u).2) := by
  cases kind with
  | root =>
    show f.questUnit u = (f.write (Card.ofQuest u).1, (Card.ofQuest u).2)
    unfold questUnit Card.ofQuest
    split <;> rfl
  | combat => rfl
  | trigger => rfl
  | narrative => rfl

/-! ## the values in a card -/

def BodyItem.placed : BodyItem V → List V
  | .paragraph _ => []
  | .choice _ children => children
  | .child value => [value]

def Roleplay.placed (card : Roleplay V) : List V := card.body.flatMap BodyItem.placed

def Combat.placed (card : Combat V) : List V := card.events.flatMap (·.children)

def Card.placed : Card V → List V
  | .roleplay card => card.placed
  | .combat card => card.placed
  | _ => []

theorem Roleplay.placed_itemsOfLines (lines : List Text) :
    (itemsOfLines lines : List (BodyItem V)).flatMap BodyItem.placed = [] := by
  induction lines with
  | nil => rfl
  | cons line rest ih =>
    unfold itemsOfLines
    cases Line.choice? line with
    | some text => exact ih
    | none =>
      cases h : (itemsOfLines rest : List (BodyItem V)) with
      | nil => rfl
      | cons item items =>
        rw [h] at ih
        cases item with
        | paragraph more => exact ih
        | choice text children => exact ih
        | child value => cases ih

/-- a value is attached to the choice at the end of a body -/
theorem Roleplay.exists_of_attach? {body body' : List (BodyItem V)} {value : V}
    (h : attach? body value = some body') : ∃ init text children,
      body = init ++ [.choice text children] ∧
        body' = init ++ [.choice text (children ++ [value])] := by
  unfold attach? at h
  split at h
  · next text children hlast =>
    obtain ⟨init, rfl⟩ := List.getLast?_eq_some_iff.mp hlast
    rw [List.dropLast_concat] at h
    exact ⟨init, text, children, rfl, (Option.some.inj h).symm⟩
  · cases h

theorem Roleplay.placed_attach? {body body' : List (BodyItem V)} {value : V}
    (h : attach? body value = some body') :
    body'.flatMap BodyItem.placed = body.flatMap BodyItem.placed ++ [value] := by
  obtain ⟨init, text, children, rfl, rfl⟩ := exists_of_attach? h
  simp [BodyItem.placed]

section
variable {body body' : List (BodyItem V)} (log : List Diagnostic) (id : Nat) {b : Block} {v : V}

theorem Roleplay.addMember_of_attach (h : attach? body v = some body') :
    addMember (body, log) (@Member.folded V id b v) = (body', log) := by
  simp only [addMember, h]

theorem Roleplay.addMember_of_stray (h : attach? body v = none) :
    addMember (body, log) (@Member.folded V id b v) =
      (body ++ [.child v], log ++ [Problem.strayChild.on [id]]) := by
  simp only [addMember, h]

end

/-- every value that is folded into a unit goes to the end of the card that is read -/
theorem Roleplay.placed_foldl (ms : List (Member V)) :
    ∀ x : List (BodyItem V) × List Diagnostic,
      (ms.foldl addMember x).1.flatMap BodyItem.placed =
        x.1.flatMap BodyItem.placed ++ ms.filterMap Member.value? := by
  induction ms with
  | nil => intro x; simp
  | cons m ms ih =>
    rintro ⟨body, log⟩
    rw [List.foldl_cons, ih]
    cases m with
    | own id b =>
      show (body ++ itemsOfLines b.lines).flatMap BodyItem.placed ++ _ = _
      rw [List.flatMap_append, placed_itemsOfLines, List.append_nil]
      rfl
    | @folded id b v =>
      have hstep : (addMember (body, log) (@Member.folded V id b v)).1.flatMap BodyItem.placed =
          body.flatMap BodyItem.placed ++ [v] := by
        cases h : attach? body v with
        | some body' =>
          rw [addMember_of_attach log id h]
          exact placed_attach? h
        | none =>
          rw [addMember_of_stray log id h]
          simp [BodyItem.placed]
      rw [hstep, List.append_assoc]
      rfl

theorem Roleplay.ofUnit_eq (u : RenderUnit V) :
    ofUnit u =
      let x := u.rest.foldl addMember (itemsOfLines (splitTitle u.anchor.lines).2, [])
      (⟨(splitTitle u.anchor.lines).1, x.1⟩, x.2) := rfl

theorem Roleplay.placed_ofUnit (u : RenderUnit V) :
    (ofUnit u).1.placed = u.rest.filterMap Member.value? := by
  rw [ofUnit_eq]
  show (u.rest.foldl addMember (itemsOfLines (splitTitle u.anchor.lines).2, [])).1.flatMap _ = _
  rw [placed_foldl, placed_itemsOfLines, List.nil_append]

namespace CombatReading

theorem placed_addLine (id : Nat) (r : CombatReading V) (line : Text) :
    (r.addLine id line).card.placed = r.card.placed := by
  unfold addLine
  cases CombatLine.ofText line with
  | enemy name =>
    show (r.addEnemy name).card.placed = _
    unfold addEnemy
    split <;> rfl
  | event on => simp [Combat.placed]
  | unknownEvent choice => rfl
  | other line => rfl

theorem log_addLine (id : Nat) (r : CombatReading V) (line : Text) :
    r.log ⊆ (r.addLine id line).log := by
  unfold addLine
  cases CombatLine.ofText line with
  | enemy name =>
    show r.log ⊆ (r.addEnemy name).log
    unfold addEnemy
    split <;> exact List.Subset.refl _
  | event on => exact List.Subset.refl _
  | unknownEvent choice => exact List.subset_append_left _ _
  | other line => exact List.subset_append_left _ _

theorem foldl_addLine (id : Nat) (lines : List Text) : ∀ r : CombatReading V,
    (lines.foldl (addLine id) r).card.placed = r.card.placed ∧
      r.log ⊆ (lines.foldl (addLine id) r).log := by
  induction lines with
  | nil => exact fun r => ⟨rfl, List.Subset.refl _⟩
  | cons line lines ih =>
    intro r
    obtain ⟨h1, h2⟩ := ih (r.addLine id line)
    exact ⟨h1.trans (placed_addLine id r line), List.Subset.trans (log_addLine id r line) h2⟩

theorem placed_attach? {events events' : List (CombatEvent V)} {value : V}
    (h : attach? events value = some events') :
    events'.flatMap (·.children) = events.flatMap (·.children) ++ [value] := by
  unfold attach? at h
  obtain ⟨e, he, rfl⟩ := Option.map_eq_some_iff.mp h
  obtain ⟨init, rfl⟩ := List.getLast?_eq_some_iff.mp he
  rw [List.dropLast_concat]
  simp

section
variable (r : CombatReading V) (id : Nat) {b : Block} (v : V)

/-- the events with the value in the last one, if that is open -/
def attached? : Option (List (CombatEvent V)) :=
  if r.isOpen then attach? r.card.events v else none

theorem addMember_of_attached {events : List (CombatEvent V)} (h : r.attached? v = some events) :
    r.addMember (@Member.folded V id b v) = ⟨⟨r.card.enemies, events⟩, r.isOpen, r.log⟩ := by
  unfold attached? at h
  simp only [addMember, h]

theorem addMember_of_stray (h : r.attached? v = none) : r.addMember (@Member.folded V id b v) =
    ⟨r.card, r.isOpen, r.log ++ [Problem.strayCombatChild.on [id]]⟩ := by
  unfold attached? at h
  simp only [addMember, h]

/-- a value that is folded into a unit goes to the end of the last event, or it is reported -/
theorem addMember_folded :
    let r' := r.addMember (@Member.folded V id b v)
    r'.card.placed = r.card.placed ++ [v] ∧ r'.log = r.log ∨
      r'.card.placed = r.card.placed ∧ r'.log = r.log ++ [Problem.strayCombatChild.on [id]] := by
  dsimp only
  cases h : r.attached? v with
  | none =>
    rw [addMember_of_stray r id v h]
    exact Or.inr ⟨rfl, rfl⟩
  | some events =>
    rw [addMember_of_attached r id v h]
    unfold attached? at h
    split at h
    · exact Or.inl ⟨placed_attach? h, rfl⟩
    · cases h

end

/-- the members whose values are in the card that is read, and the messages about the others -/
theorem exists_kept (ms : List (Member V)) : ∀ r : CombatReading V,
    r.log ⊆ (ms.foldl addMember r).log ∧ ∃ kept : List (Member V), kept.Sublist ms ∧
      (ms.foldl addMember r).card.placed = r.card.placed ++ kept.filterMap Member.value? ∧
      ∀ m ∈ ms, m.isFolded → m ∈ kept ∨
        Problem.strayCombatChild.on [m.id] ∈ (ms.foldl addMember r).log := by
  induction ms with
  | nil => exact fun r => ⟨List.Subset.refl _, [], List.Sublist.refl _, by simp, by simp⟩
  | cons m ms ih =>
    intro r
    rw [List.foldl_cons]
    obtain ⟨hlog, kept, hsub, hplaced, hkept⟩ := ih (r.addMember m)
    cases m with
    | own id b =>
      obtain ⟨h1, h2⟩ := foldl_addLine id b.lines r
      refine ⟨List.Subset.trans h2 hlog, kept, hsub.cons _, hplaced.trans (congrArg (· ++ _) h1), ?_⟩
      rw [List.forall_mem_cons]
      exact ⟨fun h => absurd h Bool.false_ne_true, hkept⟩
    | folded id v =>
      rcases addMember_folded r id v with ⟨h1, h2⟩ | ⟨h1, h2⟩
      · refine ⟨h2 ▸ hlog, _, hsub.cons_cons _, ?_, ?_⟩
        · rw [hplaced, h1, List.append_assoc]
          rfl
        · rw [List.forall_mem_cons]
          refine ⟨fun _ => Or.inl List.mem_cons_self, fun m hm hf => ?_⟩
          exact (hkept m hm hf).imp_left (List.mem_cons_of_mem _)
      · rw [h2] at hlog
        refine ⟨fun d hd => hlog (List.mem_append_left _ hd), kept, hsub.cons _, ?_, ?_⟩
        · rw [hplaced, h1]
        · rw [List.forall_mem_cons]
          exact ⟨fun _ => Or.inr (hlog (List.mem_append_right _ List.mem_cons_self)), hkept⟩

end CombatReading

/-- **the values in a card** are those of some members of the unit, in their order; except for the
unit of a quest header, a value that is not among them is reported -/
theorem Card.exists_kept (kind : LineKind) (u : RenderUnit V) :
    ∃ kept : List (Member V), kept.Sublist u.rest ∧
    (ofUnit kind u).1.placed = kept.filterMap Member.value? ∧
    (kind ≠ .root → ∀ m ∈ u.rest, m.isFolded → m ∈ kept ∨
      ∃ d ∈ (ofUnit kind u).2, (d.code = 428 ∨ d.code = 433) ∧ m.id ∈ d.blocks) := by
  cases kind with
  | root =>
    refine ⟨[], List.nil_sublist _, ?_, fun h => absurd rfl h⟩
    show (ofQuest u).1.placed = []
    unfold ofQuest
    split <;> rfl
  | combat =>
    obtain ⟨_, kept, hsub, hplaced, hkept⟩ := CombatReading.exists_kept u.rest
      (u.anchor.lines.tail.foldl (CombatReading.addLine u.anchorId)
        ⟨⟨(u.anchor.lines.head?.map CombatReading.headerEnemies).getD [], []⟩, false, []⟩)
    refine ⟨kept, hsub, ?_, fun _ m hm hf => (hkept m hm hf).imp_right fun hd => ?_⟩
    · rw [(CombatReading.foldl_addLine _ _ _).1] at hplaced
      exact hplaced
    · exact ⟨_, List.mem_append_left _ hd, Or.inl rfl, List.mem_singleton_self _⟩
  | trigger =>
    refine ⟨[], List.nil_sublist _, rfl, fun _ m hm _ => Or.inr ?_⟩
    have hne : u.rest.isEmpty = false := List.isEmpty_eq_false_iff.mpr (List.ne_nil_of_mem hm)
    refine ⟨Problem.triggerExtra.on u.ids, ?_, Or.inr rfl, ?_⟩
    · show _ ∈ if !u.rest.isEmpty || u.anchor.lines.length > 1 then _ else _
      rw [hne]
      exact List.mem_singleton_self _
    · exact List.mem_map_of_mem (List.mem_cons_of_mem _ hm)
  | narrative =>
    exact ⟨u.rest, List.Sublist.refl _, Roleplay.placed_ofUnit u, fun _ _ hm _ => Or.inl hm⟩

/-! ## reading in another type of values -/

def BodyItem.map (φ : V → W) : BodyItem V → BodyItem W
  | .paragraph text => .paragraph text
  | .choice text children => .choice text (children.map φ)
  | .child value => .child (φ value)

def Roleplay.map (φ : V → W) (card : Roleplay V) : Roleplay W :=
  ⟨card.title, card.body.map (BodyItem.map φ)⟩

def CombatEvent.map (φ : V → W) (e : CombatEvent V) : CombatEvent W := ⟨e.on, e.children.map φ⟩

def Combat.map (φ : V → W) (card : Combat V) : Combat W :=
  ⟨card.enemies, card.events.map (CombatEvent.map φ)⟩

def CombatReading.map (φ : V → W) (r : CombatReading V) : CombatReading W :=
  ⟨r.card.map φ, r.isOpen, r.log⟩

def Card.map (φ : V → W) : Card V → Card W
  | .quest header => .quest header
  | .roleplay card => .roleplay (card.map φ)
  | .combat card => .combat (card.map φ)
  | .trigger text => .trigger text
  | .placeholder message => .placeholder message

variable {φ : V → W}

namespace Roleplay

theorem itemsOfLines_map (lines : List Text) :
    (itemsOfLines lines : List (BodyItem W)) = (itemsOfLines lines).map (BodyItem.map φ) := by
  induction lines with
  | nil => rfl
  | cons line rest ih =>
    unfold itemsOfLines
    cases Line.choice? line with
    | some text => exact congrArg (BodyItem.choice text [] :: ·) ih
    | none =>
      dsimp only
      rw [ih]
      cases (itemsOfLines rest : List (BodyItem V)) with
      | nil => rfl
      | cons item items => cases item <;> rfl

theorem attach?_map (body : List (BodyItem V)) (value : V) :
    attach? (body.map (BodyItem.map φ)) (φ value) =
      (attach? body value).map (List.map (BodyItem.map φ)) := by
  unfold attach?
  rw [List.getLast?_map]
  cases body.getLast? with
  | none => rfl
  | some item =>
    cases item with
    | paragraph text => rfl
    | child v => rfl
    | choice text children => simp [BodyItem.map]

theorem addMember_map (x : List (BodyItem V) × List Diagnostic) (m : Member V) :
    addMember (Prod.map (List.map (BodyItem.map φ)) id x) (m.map φ) =
      Prod.map (List.map (BodyItem.map φ)) id (addMember x m) := by
  obtain ⟨body, log⟩ := x
  cases m with
  | own id b =>
    show (body.map (BodyItem.map φ) ++ itemsOfLines b.lines, log) =
      ((body ++ itemsOfLines b.lines).map (BodyItem.map φ), log)
    rw [List.map_append, itemsOfLines_map]
  | @folded id b v =>
    show addMember (body.map (BodyItem.map φ), log) (@Member.folded W id b (φ v)) = _
    have hattach := attach?_map (φ := φ) body v
    cases h : attach? body v with
    | some body' =>
      rw [h] at hattach
      rw [addMember_of_attach log id hattach, addMember_of_attach log id h]
      rfl
    | none =>
      rw [h] at hattach
      rw [addMember_of_stray log id hattach, addMember_of_stray log id h]
      simp [BodyItem.map]

theorem foldl_addMember_map (ms : List (Member V)) :
    ∀ x : List (BodyItem V) × List Diagnostic,
      (ms.map (Member.map φ)).foldl addMember (Prod.map (List.map (BodyItem.map φ)) id x) =
        Prod.map (List.map (BodyItem.map φ)) id (ms.foldl addMember x) := by
  induction ms with
  | nil => intro x; rfl
  | cons m ms ih =>
    intro x
    rw [List.map_cons, List.foldl_cons, List.foldl_cons, addMember_map, ih]

theorem ofUnit_map (u : RenderUnit V) :
    ofUnit (u.map φ) = ((ofUnit u).1.map φ, (ofUnit u).2) := by
  have hfold := foldl_addMember_map (φ := φ) u.rest
    (itemsOfLines (splitTitle u.anchor.lines).2, [])
  rw [Prod.map_apply, ← itemsOfLines_map] at hfold
  rw [ofUnit_eq, ofUnit_eq]
  dsimp only [RenderUnit.map, id] at hfold ⊢
  rw [hfold]
  rfl

end Roleplay

namespace CombatReading

theorem addLine_map (id : Nat) (r : CombatReading V) (line : Text) :
    addLine id (r.map φ) line = (addLine id r line).map φ := by
  unfold addLine
  cases CombatLine.ofText line with
  | enemy name =>
    show addEnemy (r.map φ) name = (addEnemy r name).map φ
    unfold addEnemy
    split <;> rfl
  | event on => simp [CombatReading.map, Combat.map, CombatEvent.map]
  | unknownEvent choice => rfl
  | other line => rfl

theorem foldl_addLine_map (id : Nat) (lines : List Text) : ∀ r : CombatReading V,
    lines.foldl (addLine id) (r.map φ) = (lines.foldl (addLine id) r).map φ := by
  induction lines with
  | nil => intro r; rfl
  | cons line lines ih =>
    intro r
    rw [List.foldl_cons, List.foldl_cons, addLine_map, ih]

theorem attach?_map (events : List (CombatEvent V)) (value : V) :
    attach? (events.map (CombatEvent.map φ)) (φ value) =
      (attach? events value).map (List.map (CombatEvent.map φ)) := by
  unfold attach?
  rw [List.getLast?_map, Option.map_map, Option.map_map]
  cases events.getLast? with
  | none => rfl
  | some e => simp [CombatEvent.map]

theorem attached?_map (r : CombatReading V) (v : V) :
    (r.map φ).attached? (φ v) = (r.attached? v).map (List.map (CombatEvent.map φ)) := by
  unfold attached?
  show (if r.isOpen then attach? (r.card.events.map (CombatEvent.map φ)) (φ v) else none) = _
  rw [attach?_map]
  split <;> rfl

theorem addMember_map (r : CombatReading V) (m : Member V) :
    addMember (r.map φ) (m.map φ) = (addMember r m).map φ := by
  cases m with
  | own id b => exact foldl_addLine_map id b.lines r
  | @folded id b v =>
    show addMember (r.map φ) (@Member.folded W id b (φ v)) = _
    have hattached := attached?_map (φ := φ) r v
    cases h : r.attached? v with
    | none =>
      rw [h] at hattached
      rw [addMember_of_stray _ id _ hattached, addMember_of_stray r id v h]
      rfl
    | some events =>
      rw [h] at hattached
      rw [addMember_of_attached _ id _ hattached, addMember_of_attached r id v h]
      rfl

theorem foldl_addMember_map (ms : List (Member V)) : ∀ r : CombatReading V,
    (ms.map (Member.map φ)).foldl addMember (r.map φ) = (ms.foldl addMember r).map φ := by
  induction ms with
  | nil => intro r; rfl
  | cons m ms ih =>
    intro r
    rw [List.map_cons, List.foldl_cons, List.foldl_cons, addMember_map, ih]

theorem ofUnit_map (u : RenderUnit V) : ofUnit (u.map φ) = (ofUnit u).map φ := by
  unfold ofUnit
  dsimp only
  rw [← foldl_addMember_map, ← foldl_addLine_map]
  rfl

end CombatReading

/-- **reading does not look into the values** -/
theorem Card.ofUnit_map (kind : LineKind) (u : RenderUnit V) :
    ofUnit kind (u.map φ) = ((ofUnit kind u).1.map φ, (ofUnit kind u).2) := by
  cases kind with
  | root =>
    show ofQuest (u.map φ) = ((ofQuest u).1.map φ, (ofQuest u).2)
    unfold ofQuest
    show (if u.anchor.indent > 0 then _ else _) = _
    split <;> rfl
  | combat =>
    show (Card.combat (CombatReading.ofUnit (u.map φ)).card, (CombatReading.ofUnit (u.map φ)).log ++
      if (CombatReading.ofUnit (u.map φ)).card.enemies.isEmpty then _ else _) = _
    rw [CombatReading.ofUnit_map]
    rfl
  | trigger =>
    have hids : (u.map φ).ids = u.ids := by
      show _ :: (u.rest.map (Member.map φ)).map Member.id = _ :: u.rest.map Member.id
      rw [List.map_map]
      exact congrArg _ (List.map_congr_left fun m _ => Member.id_map m)
    have hempty : (u.map φ).rest.isEmpty = u.rest.isEmpty := List.isEmpty_map
    show ofTrigger (u.map φ) = ((ofTrigger u).1.map φ, (ofTrigger u).2)
    unfold ofTrigger
    rw [hids, hempty]
    rfl
  | narrative =>
    show (Card.roleplay (Roleplay.ofUnit (u.map φ)).1, (Roleplay.ofUnit (u.map φ)).2) = _
    rw [Roleplay.ofUnit_map]
    rfl

/-! ## formats -/

/-- `φ` takes what `f` writes to what `f'` writes -/
structure CardFormat.Maps (φ : V → W) (f : CardFormat V) (f' : CardFormat W) : Prop where
  write : ∀ card, f'.write (card.map φ) = φ (f.write card)
  isQuest : ∀ v, f'.isQuest (φ v) = f.isQuest v
  document : ∀ q vs, f'.document (φ q) (vs.map φ) = φ (f.document q vs)

theorem CardFormat.Maps.assemble {f : CardFormat V} {f' : CardFormat W} (h : f.Maps φ f')
    (vs : List V) : f'.assemble (vs.map φ) = (φ (f.assemble vs).1, (f.assemble vs).2) := by
  have huntitled : f'.quest .untitled = φ (f.quest .untitled) := h.write (.quest .untitled)
  cases vs with
  | nil =>
    show (f'.document (f'.quest .untitled) ([].map φ), []) = _
    rw [huntitled, h.document]
    rfl
  | cons v vs =>
    unfold CardFormat.assemble
    rw [List.map_cons]
    dsimp only
    rw [h.isQuest, huntitled, ← List.map_cons, h.document, h.document]
    split <;> rfl

end QuestScript
