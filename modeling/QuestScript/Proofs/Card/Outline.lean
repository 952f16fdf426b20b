import QuestScript.Proofs.Card.Reading
import QuestScript.Xml.Format
import QuestScript.Outline.Node

/-!
# The outline of quest XML

The outline of a script can be read off its quest XML: every element that stands for a card, a choice
or an event is a line, and the line says what `XmlNode.outlineLabel` finds in the element.

* `XmlNode.toOutline`           the outline of an element;
* `XmlCard`                     an element that stands for a card;
* `XmlCard.maps_node`, `XmlCard.maps_toOutline`
                                cards are written as quest XML and as outlines alike;
* `Compilation.outline_of_xml`  so the outline of a script is that of its quest XML.
-/

namespace QuestScript

/-! ## the outline of an element -/

namespace XmlNode

def isNamed (name : Text) (n : XmlNode) : Bool := n.name? == some name

/-- the text in an element -/
def content (n : XmlNode) : Text :=
  n.children.flatMap fun
    | text t => t
    | _ => []

/-- what the line of an element says -/
def outlineLabel (n : XmlNode) : Text :=
  if n.isNamed "choice" then (n.attribute? "text").getD []
  else if n.isNamed "event" then (n.attribute? "on").getD []
  else if n.isNamed "combat" then
    Text.join [',', ' '] ((n.children.filter (isNamed "e")).map content)
  else if n.isNamed "trigger" || n.isNamed "error" then n.content
  else (n.attribute? "title").getD []

/-- in an element called `parent`, the node is a line: a paragraph of a roleplay card is none, and
neither is an enemy of a combat card -/
def isLineIn (parent : Text) (n : XmlNode) : Bool :=
  n.name?.isSome && !(parent == ("roleplay" : Text) && n.isNamed "p") &&
    !(parent == ("combat" : Text) && n.isNamed "e")

mutual

/-- the outline of an element -/
def toOutline : XmlNode → OutlineNode
  | element name attrs cs =>
    .node name (outlineLabel (element name attrs cs)) (outlineLines name cs)
  | _ => .node [] [] []

def outlineLines (parent : Text) : List XmlNode → List OutlineNode
  | [] => []
  | c :: cs =>
    if c.isLineIn parent then c.toOutline :: outlineLines parent cs else outlineLines parent cs

end

theorem name?_append (n : XmlNode) (cs : List XmlNode) : (n.append cs).name? = n.name? := by
  cases n <;> rfl

theorem outlineLines_eq (parent : Text) (cs : List XmlNode) :
    outlineLines parent cs = (cs.filter (isLineIn parent)).map toOutline := by
  induction cs with
  | nil => rfl
  | cons c cs ih =>
    rw [outlineLines, ih, List.filter_cons]
    split <;> rfl

theorem outlineLines_append (parent : Text) (cs ds : List XmlNode) :
    outlineLines parent (cs ++ ds) = outlineLines parent cs ++ outlineLines parent ds := by
  rw [outlineLines_eq, outlineLines_eq, outlineLines_eq, List.filter_append, List.map_append]

end XmlNode

/-! ## elements that stand for cards -/

namespace Xml

def cardNames : List Text := [questName, "roleplay", "combat", "trigger", "error"]

end Xml

/-- an element that stands for a card -/
structure XmlCard where
  node : XmlNode
  isCard : ∃ name ∈ Xml.cardNames, node.name? = some name

namespace XmlCard

open XmlNode

theorem isNamed_eq_false (c : XmlCard) (name : Text) (h : name ∉ Xml.cardNames) :
    c.node.isNamed name = false := by
  obtain ⟨name', hname', e⟩ := c.isCard
  unfold isNamed
  rw [e, beq_eq_false_iff_ne, ne_eq, Option.some.injEq]
  rintro rfl
  exact h hname'

theorem isNamed_e (c : XmlCard) : c.node.isNamed "e" = false := c.isNamed_eq_false "e" (by decide)

theorem isLineIn (c : XmlCard) (parent : Text) : c.node.isLineIn parent = true := by
  obtain ⟨name, _, h⟩ := c.isCard
  unfold XmlNode.isLineIn
  rw [c.isNamed_eq_false "p" (by decide), c.isNamed_e, Bool.and_false, Bool.and_false, h]
  rfl

theorem outlineLines_nodes (parent : Text) (cs : List XmlCard) :
    outlineLines parent (cs.map node) = cs.map (·.node.toOutline) := by
  have hall : (cs.map node).filter (XmlNode.isLineIn parent) = cs.map node := by
    rw [List.filter_eq_self]
    intro n hn
    obtain ⟨c, _, rfl⟩ := List.mem_map.mp hn
    exact c.isLineIn parent
  rw [outlineLines_eq, hall, List.map_map]
  rfl

/-- cards that are put at the end of an element do not change what its line says -/
theorem outlineLabel_append (name : Text) (attrs : List (Text × Text)) (cs : List XmlNode)
    (ds : List XmlCard) : outlineLabel (.element name attrs (cs ++ ds.map node)) =
      outlineLabel (.element name attrs cs) := by
  have hcontent : content (.element name attrs (cs ++ ds.map node)) =
      content (.element name attrs cs) := by
    have hnil : ((ds.map node).flatMap fun | text t => t | _ => []) = ([] : Text) := by
      rw [List.flatMap_eq_nil_iff]
      intro n hn
      obtain ⟨d, _, rfl⟩ := List.mem_map.mp hn
      obtain ⟨_, _, h⟩ := d.isCard
      cases hd : d.node with
      | text t => rw [hd] at h; cases h
      | element name attrs cs => rfl
      | markup m => rfl
    show (cs ++ ds.map node).flatMap _ = cs.flatMap _
    rw [List.flatMap_append, hnil, List.append_nil]
  have henemies : (cs ++ ds.map node).filter (isNamed "e") = cs.filter (isNamed "e") := by
    have hnil : (ds.map node).filter (isNamed "e") = [] := by
      rw [List.filter_eq_nil_iff]
      intro n hn
      obtain ⟨d, _, rfl⟩ := List.mem_map.mp hn
      exact Bool.eq_false_iff.mp d.isNamed_e
    rw [List.filter_append, hnil, List.append_nil]
  unfold outlineLabel
  rw [hcontent]
  show (if _ then _ else if _ then _ else if _ then
    Text.join _ (((cs ++ ds.map node).filter (isNamed "e")).map content) else _) = _
  rw [henemies]
  rfl

theorem toOutline_append (c : XmlCard) (ds : List XmlCard) :
    (c.node.append (ds.map node)).toOutline =
      c.node.toOutline.append (ds.map (·.node.toOutline)) := by
  obtain ⟨n, name, _, h⟩ := c
  cases n with
  | text t => cases h
  | markup m => cases h
  | element name attrs cs =>
    show toOutline (.element name attrs (cs ++ ds.map node)) = _
    rw [toOutline, outlineLabel_append, outlineLines_append, outlineLines_nodes]
    rfl

/-! ## writing cards -/

/-- writes cards as quest XML -/
def format : CardFormat XmlCard where
  quest header := ⟨Xml.format.quest header, Xml.questName, by decide, rfl⟩
  roleplay card := ⟨Xml.format.roleplay (card.map node), "roleplay", by decide, rfl⟩
  combat card := ⟨Xml.format.combat (card.map node), "combat", by decide, rfl⟩
  trigger text := ⟨Xml.format.trigger text, "trigger", by decide, rfl⟩
  placeholder message := ⟨Xml.format.placeholder message, "error", by decide, rfl⟩
  isQuest c := Xml.format.isQuest c.node
  document q cs := ⟨Xml.format.document q.node (cs.map node), by
    obtain ⟨name, hname, h⟩ := q.isCard
    exact ⟨name, hname, (name?_append q.node _).trans h⟩⟩

theorem maps_node : format.Maps node Xml.format where
  write card := by cases card <;> rfl
  isQuest _ := rfl
  document _ _ := rfl

theorem outlineLines_body (body : List (BodyItem XmlCard)) :
    outlineLines "roleplay" ((body.map (BodyItem.map node)).map Xml.bodyNode) =
      (body.map (BodyItem.map (·.node.toOutline))).filterMap Outline.bodyNode? := by
  induction body with
  | nil => rfl
  | cons item body ih =>
    rw [List.map_cons, List.map_cons, List.map_cons, outlineLines, ih]
    cases item with
    | paragraph text => rfl
    | choice text children =>
      show OutlineNode.node _ text (outlineLines _ (children.map node)) :: _ = _
      rw [outlineLines_nodes]
      rfl
    | child c =>
      have hline : (Xml.bodyNode (BodyItem.map node (.child c))).isLineIn "roleplay" = true :=
        c.isLineIn _
      rw [if_pos hline]
      rfl

theorem outlineLines_enemies (enemies : List Text) :
    outlineLines "combat" (enemies.map (Xml.textElement "e")) = [] := by
  rw [outlineLines_eq, List.map_eq_nil_iff, List.filter_eq_nil_iff]
  intro n hn
  obtain ⟨enemy, _, rfl⟩ := List.mem_map.mp hn
  exact Bool.eq_false_iff.mp rfl

theorem outlineLines_events (events : List (CombatEvent XmlCard)) :
    outlineLines "combat" ((events.map (CombatEvent.map node)).map fun e =>
        .element "event" [("on", e.on)] e.children) =
      (events.map (CombatEvent.map (·.node.toOutline))).map fun e => .node "event" e.on e.children := by
  induction events with
  | nil => rfl
  | cons e events ih =>
    rw [List.map_cons, List.map_cons, outlineLines, ih]
    show OutlineNode.node _ e.on (outlineLines _ (e.children.map node)) :: _ = _
    rw [outlineLines_nodes]
    rfl

theorem outlineLabel_roleplay (title : Option Text) (cs : List XmlNode) :
    outlineLabel (.element "roleplay" (title.toList.map fun t => ("title", t)) cs) =
      title.getD [] := by
  cases title <;> rfl

theorem outlineLabel_combat (enemies : List Text) (events : List (CombatEvent XmlNode)) :
    outlineLabel (.element "combat" [] (enemies.map (Xml.textElement "e") ++
      events.map fun e => .element "event" [("on", e.on)] e.children)) =
        Text.join [',', ' '] enemies := by
  have hevents : (events.map fun e => XmlNode.element "event" [("on", e.on)] e.children).filter
      (isNamed "e") = [] := by
    rw [List.filter_eq_nil_iff]
    intro n hn
    obtain ⟨e, _, rfl⟩ := List.mem_map.mp hn
    exact Bool.eq_false_iff.mp rfl
  have henemies : ((enemies.map (Xml.textElement "e")).filter (isNamed "e")).map content =
      enemies := by
    induction enemies with
    | nil => rfl
    | cons enemy enemies ih =>
      rw [List.map_cons, List.filter_cons_of_pos rfl, List.map_cons, ih]
      show (enemy ++ []) :: enemies = _
      rw [List.append_nil]
  show Text.join _ (((enemies.map (Xml.textElement "e") ++ List.map _ events).filter
    (isNamed "e")).map content) = _
  rw [List.filter_append, hevents, List.append_nil, henemies]

/-- **a card** is written alike as quest XML and as an outline -/
theorem write_toOutline (card : Card XmlCard) :
    Outline.format.write (card.map (·.node.toOutline)) = (format.write card).node.toOutline := by
  cases card with
  | quest header => rfl
  | roleplay card =>
    obtain ⟨title, body⟩ := card
    show _ = OutlineNode.node "roleplay" (outlineLabel (.element "roleplay" _ _)) (outlineLines _ _)
    rw [outlineLabel_roleplay]
    show _ = OutlineNode.node _ _ (outlineLines _ ((body.map (BodyItem.map node)).map Xml.bodyNode))
    rw [outlineLines_body]
    rfl
  | combat card =>
    obtain ⟨enemies, events⟩ := card
    show _ = OutlineNode.node "combat" (outlineLabel (.element "combat" [] (_ ++ _)))
      (outlineLines _ (_ ++ List.map _ (events.map (CombatEvent.map node))))
    rw [outlineLabel_combat, outlineLines_append, outlineLines_enemies, outlineLines_events]
    rfl
  | trigger text =>
    show OutlineNode.node _ text [] = .node _ (text ++ []) []
    rw [List.append_nil]
  | placeholder message =>
    show OutlineNode.node _ message [] = .node _ (message ++ []) []
    rw [List.append_nil]

theorem maps_toOutline : format.Maps (·.node.toOutline) Outline.format where
  write := write_toOutline
  isQuest c := by
    obtain ⟨n, name, _, h⟩ := c
    cases n with
    | element name' attrs cs => rfl
    | text t => cases h
    | markup m => cases h
  document q cs := (q.toOutline_append cs).symm

end XmlCard

/-! ## a whole render -/

/-- where cards are written alike, they are rendered alike -/
theorem CardFormat.Maps.renderer {V W : Type} {φ : V → W} {f : CardFormat V} {f' : CardFormat W}
    (h : f.Maps φ f') : f.renderer.Maps φ φ f'.renderer where
  unit kind u := by
    show f'.unit kind (u.map φ) = (φ (f.unit kind u).1, (f.unit kind u).2)
    rw [CardFormat.unit_eq, CardFormat.unit_eq, Card.ofUnit_map, h.write]
  document := h.assemble

namespace Compilation

variable {V W D E : Type}

theorem blocks_map (φ : V → W) (ψ : D → E) (c : Compilation V D) :
    (c.map φ ψ).blocks = c.blocks := by
  show (c.cells.map (Cell.map φ)).map Cell.block = c.cells.map Cell.block
  rw [List.map_map]
  rfl

theorem valueAt?_map (φ : V → W) (ψ : D → E) (c : Compilation V D) (n : Nat) :
    (c.map φ ψ).valueAt? n = (c.valueAt? n).map φ := by
  unfold valueAt?
  rw [blocks_map, Option.map_bind]
  congr 1
  funext id
  exact value?_map c _

/-- **The outline of a script is that of its quest XML.**  Rendered as quest XML and as an outline, a
script gives the same groups, the same messages and the same metadata, and the outline of the
document, and of what stands at a line, is read off the quest XML. -/
theorem outline_of_xml (source : Text) :
    let x := ofSource Xml.format.renderer source
    let o := ofSource Outline.format.renderer source
    o.table = x.table ∧ o.diagnostics = x.diagnostics ∧
      o.metadata Outline.format.renderer = x.metadata Xml.format.renderer ∧
      o.document = x.document.toOutline ∧
      ∀ n, o.valueAt? n = (x.valueAt? n).map XmlNode.toOutline := by
  intro x o
  let c := ofSource XmlCard.format.renderer source
  have hx : x = c.map XmlCard.node XmlCard.node := ofBlocks_map XmlCard.maps_node.renderer _
  have ho : o = c.map (·.node.toOutline) (·.node.toOutline) :=
    ofBlocks_map XmlCard.maps_toOutline.renderer _
  rw [hx, ho]
  refine ⟨rfl, rfl, ?_, rfl, fun n => ?_⟩
  · unfold metadata
    rw [blocks_map, blocks_map]
    rfl
  · rw [valueAt?_map, valueAt?_map, Option.map_map]
    rfl

end Compilation

end QuestScript
