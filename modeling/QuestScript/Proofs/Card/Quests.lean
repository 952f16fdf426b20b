import QuestScript.Proofs.Card.Marked
import QuestScript.Proofs.Card.Placed

/-!
# Quest nodes

The nodes of a document in preorder, and how many of them are quests.  A card has the quest nodes of
the values in it, and one more if it is a quest; a document has those of its parts, and one more
where an untitled quest is put first.

* `XmlNode.nodes`, `OutlineNode.nodes`  the nodes of a document;
* `CardFormat.CountsQuests`  how many quest nodes cards and documents have;
* `Xml.countsQuests`, `Outline.countsQuests`  both formats count in this way;
* `CountsQuests.assemble`    the quest nodes of the document of some values.
-/

namespace QuestScript

variable {V : Type}

/-! ## the nodes of a document -/

namespace XmlNode

mutual

/-- the nodes of a tree, each before its children -/
def nodes : XmlNode → List XmlNode
  | element name attrs cs => element name attrs cs :: nodesAll cs
  | node => [node]

def nodesAll : List XmlNode → List XmlNode
  | [] => []
  | c :: cs => c.nodes ++ nodesAll cs

end

theorem nodesAll_eq (cs : List XmlNode) : nodesAll cs = cs.flatMap nodes := by
  induction cs with
  | nil => rfl
  | cons c cs ih => rw [nodesAll, ih, List.flatMap_cons]

theorem nodes_element (name : Text) (attrs : List (Text × Text)) (cs : List XmlNode) :
    (element name attrs cs).nodes = element name attrs cs :: cs.flatMap nodes := by
  rw [nodes, nodesAll_eq]

end XmlNode

namespace OutlineNode

mutual

/-- the nodes of an outline, each before its children -/
def nodes : OutlineNode → List OutlineNode
  | node kind label cs => node kind label cs :: nodesAll cs

def nodesAll : List OutlineNode → List OutlineNode
  | [] => []
  | c :: cs => c.nodes ++ nodesAll cs

end

theorem nodesAll_eq (cs : List OutlineNode) : nodesAll cs = cs.flatMap nodes := by
  induction cs with
  | nil => rfl
  | cons c cs ih => rw [nodesAll, ih, List.flatMap_cons]

theorem nodes_node (kind label : Text) (cs : List OutlineNode) :
    (node kind label cs).nodes = node kind label cs :: cs.flatMap nodes := by
  rw [nodes, nodesAll_eq]

end OutlineNode

/-! ## quest nodes -/

/-- the card of a quest header -/
def Card.isQuest : Card V → Bool
  | .quest _ => true
  | _ => false

/-- with `nodes` as the nodes of a document, a card has the quest nodes of the values in it, and one
more if it is a quest; and a document has those of its parts -/
structure CardFormat.CountsQuests (f : CardFormat V) (nodes : V → List V) : Prop where
  isQuest_write : ∀ card, f.isQuest (f.write card) = card.isQuest
  write : ∀ card, (nodes (f.write card)).countP f.isQuest =
    (if card.isQuest then 1 else 0) + (card.placed.flatMap nodes).countP f.isQuest
  isQuest_document : ∀ q vs, f.isQuest (f.document q vs) = f.isQuest q
  document : ∀ q vs, f.isQuest q = true → (nodes (f.document q vs)).countP f.isQuest =
    (nodes q).countP f.isQuest + (vs.flatMap nodes).countP f.isQuest

theorem countP_flatMap_congr {α β : Type} {p : β → Bool} {f g : α → List β} {l : List α}
    (h : ∀ a ∈ l, (f a).countP p = (g a).countP p) :
    (l.flatMap f).countP p = (l.flatMap g).countP p := by
  induction l with
  | nil => rfl
  | cons a l ih =>
    obtain ⟨ha, hl⟩ := List.forall_mem_cons.mp h
    rw [List.flatMap_cons, List.flatMap_cons, List.countP_append, List.countP_append, ha, ih hl]

namespace Xml

theorem countP_bodyNode (item : BodyItem XmlNode) :
    (bodyNode item).nodes.countP format.isQuest =
      (item.placed.flatMap XmlNode.nodes).countP format.isQuest := by
  cases item with
  | paragraph text => rfl
  | choice text children =>
    show (XmlNode.element "choice" [("text", text)] children).nodes.countP _ = _
    rw [XmlNode.nodes_element, List.countP_cons_of_neg Bool.false_ne_true]
    rfl
  | child value =>
    show value.nodes.countP _ = (value.nodes ++ []).countP _
    rw [List.append_nil]

theorem countsQuests : format.CountsQuests XmlNode.nodes where
  isQuest_write card := by cases card <;> rfl
  write card := by
    cases card with
    | quest header => rfl
    | trigger text => rfl
    | placeholder message => rfl
    | roleplay card =>
      show (XmlNode.element "roleplay" _ (card.body.map bodyNode)).nodes.countP _ =
        0 + ((card.body.flatMap BodyItem.placed).flatMap XmlNode.nodes).countP _
      rw [XmlNode.nodes_element, List.countP_cons_of_neg Bool.false_ne_true, List.flatMap_map,
        List.flatMap_assoc, Nat.zero_add]
      exact countP_flatMap_congr fun item _ => countP_bodyNode item
    | combat card =>
      have henemies : ((card.enemies.map (textElement "e")).flatMap XmlNode.nodes).countP
          format.isQuest = 0 := by
        rw [List.countP_eq_zero]
        intro n hn
        obtain ⟨_, hm, hn⟩ := List.mem_flatMap.mp hn
        obtain ⟨enemy, _, rfl⟩ := List.mem_map.mp hm
        rcases List.mem_pair.mp hn with rfl | rfl <;> exact Bool.false_ne_true
      show (XmlNode.element "combat" [] (_ ++ card.events.map _)).nodes.countP _ =
        0 + ((card.events.flatMap (·.children)).flatMap XmlNode.nodes).countP _
      rw [XmlNode.nodes_element, List.countP_cons_of_neg Bool.false_ne_true, List.flatMap_append,
        List.countP_append, henemies, List.flatMap_map, List.flatMap_assoc]
      refine congrArg (0 + ·) (countP_flatMap_congr fun e _ => ?_)
      rw [XmlNode.nodes_element, List.countP_cons_of_neg Bool.false_ne_true]
  isQuest_document q vs := by cases q <;> rfl
  document q vs hq := by
    cases q with
    | text t => cases hq
    | markup m => cases hq
    | element name attrs cs =>
      have hq' : format.isQuest (.element name attrs (cs ++ vs)) = true := hq
      show (XmlNode.element name attrs (cs ++ vs)).nodes.countP _ = _
      rw [XmlNode.nodes_element, XmlNode.nodes_element, List.countP_cons_of_pos hq,
        List.countP_cons_of_pos hq', List.flatMap_append, List.countP_append]
      omega

end Xml

namespace Outline

theorem countP_bodyNode? (item : BodyItem OutlineNode) :
    ((bodyNode? item).toList.flatMap OutlineNode.nodes).countP format.isQuest =
      (item.placed.flatMap OutlineNode.nodes).countP format.isQuest := by
  cases item with
  | paragraph text => rfl
  | choice text children =>
    show ((OutlineNode.node "choice" text children).nodes ++ []).countP _ = _
    rw [List.append_nil, OutlineNode.nodes_node, List.countP_cons_of_neg Bool.false_ne_true]
    rfl
  | child value => rfl

theorem countsQuests : format.CountsQuests OutlineNode.nodes where
  isQuest_write card := by cases card <;> rfl
  write card := by
    cases card with
    | quest header => rfl
    | trigger text => rfl
    | placeholder message => rfl
    | roleplay card =>
      show (OutlineNode.node "roleplay" _ (card.body.filterMap bodyNode?)).nodes.countP _ =
        0 + ((card.body.flatMap BodyItem.placed).flatMap OutlineNode.nodes).countP _
      rw [OutlineNode.nodes_node, List.countP_cons_of_neg Bool.false_ne_true,
        List.filterMap_eq_flatMap_toList, List.flatMap_assoc, List.flatMap_assoc, Nat.zero_add]
      exact countP_flatMap_congr fun item _ => countP_bodyNode? item
    | combat card =>
      show (OutlineNode.node "combat" _ (card.events.map _)).nodes.countP _ =
        0 + ((card.events.flatMap (·.children)).flatMap OutlineNode.nodes).countP _
      rw [OutlineNode.nodes_node, List.countP_cons_of_neg Bool.false_ne_true, List.flatMap_map,
        List.flatMap_assoc, Nat.zero_add]
      refine countP_flatMap_congr fun e _ => ?_
      rw [OutlineNode.nodes_node, List.countP_cons_of_neg Bool.false_ne_true]
  isQuest_document q vs := by cases q; rfl
  document q vs hq := by
    cases q with
    | node kind label cs =>
      have hq' : format.isQuest (.node kind label (cs ++ vs)) = true := hq
      show (OutlineNode.node kind label (cs ++ vs)).nodes.countP _ = _
      rw [OutlineNode.nodes_node, OutlineNode.nodes_node, List.countP_cons_of_pos hq,
        List.countP_cons_of_pos hq', List.flatMap_append, List.countP_append]
      omega

end Outline

/-! ## documents -/

namespace CardFormat.CountsQuests

variable {f : CardFormat V} {nodes : V → List V} (hf : f.CountsQuests nodes)
include hf

theorem isQuest_assemble (roots : List V) :
    f.isQuest (f.assemble roots).1 = true := by
  rcases f.assembles roots with ⟨q, rest, _, hq, hdocument⟩ | ⟨_, hdocument⟩
  · rw [hdocument, hf.isQuest_document, hq]
  · rw [hdocument, hf.isQuest_document]
    exact hf.isQuest_write (.quest .untitled)

/-- a document has the quest nodes of its parts, and one more if none of them comes first -/
theorem assemble (roots : List V) :
    (nodes (f.assemble roots).1).countP f.isQuest =
      (roots.flatMap nodes).countP f.isQuest +
        if roots.head?.map f.isQuest = some true then 0 else 1 := by
  have huntitled : (nodes (f.quest .untitled)).countP f.isQuest = 1 := hf.write (.quest .untitled)
  have hquest : f.isQuest (f.quest .untitled) = true := hf.isQuest_write (.quest .untitled)
  rcases f.assembles roots with ⟨q, rest, rfl, hq, hdocument⟩ | ⟨hnone, hdocument⟩
  · rw [hdocument, hf.document q rest hq, List.flatMap_cons, List.countP_append, List.head?_cons,
      Option.map_some, hq, if_pos rfl, Nat.add_zero]
  · have hhead : roots.head?.map f.isQuest ≠ some true := by
      cases roots with
      | nil => exact fun h => nomatch h
      | cons q rest => simp [hnone q rfl]
    rw [hdocument, hf.document _ roots hquest, huntitled, if_neg hhead, Nat.add_comm]

end CardFormat.CountsQuests

end QuestScript
